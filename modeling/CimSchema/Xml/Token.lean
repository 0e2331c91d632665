import CimSchema.Text.LetterCase
import CimSchema.Text.Segment

/-!
# Markup and the text between

A document of markup is cut into tokens: tags, character data, comments, instructions, the
document type, and the text between them. Every token uses up at least one character, so that the
cutting ends.

## Main definitions

* `Token` - a piece of markup or the text between two of them.
* `Ending` - whether the last piece of markup is complete.
* `tokens` - the tokens of a document, and how it ends.

## Main results

* `markup_length` - markup uses up at least one character.
-/

namespace CimSchema.Xml

/-- A piece of a document. References in it are not yet replaced. -/
inductive Token where
  | text (content : List Char)
  /-- A start tag, or an empty element; `attributes` is the text after the name. -/
  | element (name : List Char) (attributes : List Char) (isEmpty : Bool)
  | endTag (name : List Char)
  | characterData (content : List Char)
  | comment
  /-- The text between the question marks. -/
  | instruction (content : List Char)
  /-- The text after the keyword. -/
  | documentType (content : List Char)
  deriving DecidableEq, Repr

/-- How a document ends. -/
inductive Ending where
  | complete
  /-- In markup that a lenient reader takes for complete. -/
  | unclosed
  | faulty
  deriving DecidableEq, Repr

/-- The blanks of markup. -/
def isBlank (c : Char) : Bool :=
  c = ' ' || c = '\t' || c = '\n' || c = '\r'

/-- Where a scan for the end of a piece of markup stands, and what it does on a character; no state
means that the character is the end. -/
structure Scan (σ : Type) where
  start : σ
  step : σ → Char → Option σ

/-- The characters before the end that a scan finds, and those after it. -/
def Scan.run {σ : Type} (scan : Scan σ) (s : σ) : List Char → Option (List Char × List Char)
  | [] => none
  | c :: cs =>
    match scan.step s c with
    | none => some ([], cs)
    | some s => (scan.run s cs).map fun (content, rest) => (c :: content, rest)

theorem Scan.length_of_run {σ : Type} {scan : Scan σ} {s : σ} {cs content rest : List Char}
    (h : scan.run s cs = some (content, rest)) : rest.length < cs.length := by
  induction cs generalizing s content with
  | nil => simp [Scan.run] at h
  | cons c cs ih =>
    rw [Scan.run] at h
    split at h
    · simp_all
    · obtain ⟨⟨k, r⟩, hkr, hr⟩ := Option.map_eq_some_iff.1 h
      simp only [Prod.mk.injEq] at hr
      have := ih (hr.2 ▸ hkr)
      simp only [List.length_cons]
      omega

/-- A tag ends at the first `>` outside of quotes; the state is the open quote. -/
def tagScan : Scan (Option Char) where
  start := none
  step
    | none, c => if c = '>' then none else if c = '"' || c = '\'' then some (some c) else some none
    | some quote, c => if c = quote then some none else some (some quote)

/-- A document type ends at the `>` that has no `<` of its own; the state is the number of open
ones. -/
def documentTypeScan : Scan Nat where
  start := 0
  step open' c :=
    if c = '<' then some (open' + 1)
    else if c = '>' then (if open' = 0 then none else some (open' - 1))
    else some open'

/-- Comments and character data end at the first `>` after two characters `mark`; the state is the
number of marks right before. -/
def markedScan (mark : Char) : Scan Nat where
  start := 0
  step marks c :=
    if c = mark then some (marks + 1) else if c = '>' && 2 ≤ marks then none else some 0

/-- A list without the blanks at its end. -/
def dropBlankEnd (cs : List Char) : List Char :=
  (cs.reverse.dropWhile isBlank).reverse

/-- The tag whose text between the angle brackets is `body`. -/
def elementOf (body : List Char) : Token :=
  let (body, isEmpty) := if body.getLast? = some '/' then (body.dropLast, true) else (body, false)
  .element (body.takeWhile (!isBlank ·)) (body.dropWhile (!isBlank ·)) isEmpty

/-- The instruction whose text after the first question mark is `body`; it has to end with
another one, and something has to stand between. -/
def instructionOf? (body : List Char) : Option Token :=
  if body.getLast? = some '?' && 2 ≤ body.length then some (.instruction body.dropLast) else none

/-- A text without `lead` at its start, which is compared in any case of ASCII letters. -/
def stripLead? (lead : String) (cs : List Char) : Option (List Char) :=
  let n := lead.toList.length
  if Text.sameAscii (String.ofList (cs.take n)) lead then some (cs.drop n) else none

/-- What stands after an opening angle bracket. -/
inductive Markup where
  | token (t : Token) (rest : List Char)
  /-- The document ends in markup that a lenient reader takes for complete. -/
  | last (ts : List Token)
  | faulty

/-- The token that a scan ends, made of its text by `f`. -/
def Markup.ofScan {σ : Type} (scan : Scan σ) (cs : List Char) (f : List Char → Option Token) :
    Markup :=
  match scan.run scan.start cs with
  | some (content, rest) =>
    match f content with
    | some t => token t rest
    | none => faulty
  | none => faulty

/-- The token up to the first `>`, made of its text by `f`. Where there is none, the whole rest of
the document counts. -/
def Markup.ofCut (cs : List Char) (f : List Char → Option Token) : Markup :=
  match Text.cutAt? '>' cs with
  | some (content, rest) =>
    match f content with
    | some t => token t rest
    | none => faulty
  | none =>
    match f cs with
    | some t => last [t]
    | none => faulty

/-- What stands after an exclamation mark. -/
def declaration (cs : List Char) : Markup :=
  match cs with
  | '-' :: '-' :: cs => .ofScan (markedScan '-') cs fun _ => some .comment
  | cs =>
    match stripLead? "[CDATA[" cs with
    | some cs => .ofScan (markedScan ']') cs fun content => some (.characterData (content.dropLast.dropLast))
    | none =>
      match stripLead? "DOCTYPE" cs with
      | some cs =>
        .ofScan documentTypeScan cs fun content =>
          if content.all isBlank then none else some (.documentType content)
      | none => .faulty

/-- What stands after an opening angle bracket. -/
def markup : List Char → Markup
  | [] => .last []
  | '!' :: cs => declaration cs
  | '/' :: cs => .ofCut cs fun name => some (.endTag (dropBlankEnd name))
  | '?' :: cs => .ofCut cs instructionOf?
  | cs => .ofScan tagScan cs fun body => some (elementOf body)

theorem Markup.ofScan_length {σ : Type} {scan : Scan σ} {cs rest : List Char}
    {f : List Char → Option Token} {t : Token} (h : Markup.ofScan scan cs f = .token t rest) :
    rest.length < cs.length := by
  rw [Markup.ofScan] at h
  split at h
  · rename_i hrun
    have := Scan.length_of_run hrun
    grind
  · simp at h

theorem Markup.ofCut_length {cs rest : List Char} {f : List Char → Option Token} {t : Token}
    (h : Markup.ofCut cs f = .token t rest) : rest.length < cs.length := by
  rw [Markup.ofCut] at h
  split at h
  · rename_i hcut
    have := Text.length_of_cutAt? hcut
    grind
  · grind

theorem stripLead?_length {lead : String} {cs rest : List Char}
    (h : stripLead? lead cs = some rest) : rest.length ≤ cs.length := by
  grind [stripLead?]

theorem declaration_length {cs rest : List Char} {t : Token}
    (h : declaration cs = .token t rest) : rest.length < cs.length := by
  rw [declaration.eq_def] at h
  split at h
  · have := Markup.ofScan_length h
    simp only [List.length_cons]
    omega
  · split at h
    · rename_i hs
      exact Nat.lt_of_lt_of_le (Markup.ofScan_length h) (stripLead?_length hs)
    · split at h
      · rename_i hs
        exact Nat.lt_of_lt_of_le (Markup.ofScan_length h) (stripLead?_length hs)
      · simp at h

theorem markup_length {cs rest : List Char} {t : Token} (h : markup cs = .token t rest) :
    rest.length < cs.length := by
  rw [markup.eq_def] at h
  split at h
  · simp at h
  · have := declaration_length h
    simp only [List.length_cons]
    omega
  · have := Markup.ofCut_length h
    simp only [List.length_cons]
    omega
  · have := Markup.ofCut_length h
    simp only [List.length_cons]
    omega
  · exact Markup.ofScan_length h

theorem length_of_dropWhile_eq_cons {p : Char → Bool} {cs rest : List Char} {c : Char}
    (h : cs.dropWhile p = c :: rest) : rest.length < cs.length := by
  have := (List.dropWhile_suffix (l := cs) p).length_le
  simp_all only [List.length_cons]
  omega

/-- The text before the first piece of markup, if there is some. -/
def leadingText (cs : List Char) : List Token :=
  let lead := cs.takeWhile (· ≠ '<')
  if lead.isEmpty then [] else [.text lead]

/-- The tokens of a document, and how it ends. -/
def tokens (cs : List Char) : List Token × Ending :=
  match h : cs.dropWhile (· ≠ '<') with
  | [] => (leadingText cs, .complete)
  | _ :: body =>
    match hb : markup body with
    | .token t rest =>
      have : rest.length < cs.length :=
        Nat.lt_trans (markup_length hb) (length_of_dropWhile_eq_cons h)
      let (ts, ending) := tokens rest
      (leadingText cs ++ t :: ts, ending)
    | .last ts => (leadingText cs ++ ts, .unclosed)
    | .faulty => (leadingText cs, .faulty)
termination_by cs.length

end CimSchema.Xml
