import CimSchema.Text.LetterCase
import CimSchema.Text.Segment

/-!
# Language tags

A language tag such as `en` or `de-Latn-CH` names a language by subtags that hyphens separate.
The grammar is that of RFC 5646, section 2.1.

## Main definitions

* `isLanguageTag` - whether a text is a well-formed tag.
-/

namespace CimSchema

/-- Tags from before the grammar, which are kept as they are. -/
def grandfatheredTags : List String :=
  ["art-lojban", "cel-gaulish", "en-GB-oed", "i-ami", "i-bnn", "i-default", "i-enochian", "i-hak",
    "i-klingon", "i-lux", "i-mingo", "i-navajo", "i-pwn", "i-tao", "i-tay", "i-tsu", "no-bok",
    "no-nyn", "sgn-BE-FR", "sgn-BE-NL", "sgn-CH-DE", "zh-guoyu", "zh-hakka", "zh-min",
    "zh-min-nan", "zh-xiang"]

namespace LanguageTag

/-- What has been read of a tag. -/
inductive Place where
  /-- A language of two or three letters and some extensions of it. -/
  | language (extensions : Nat)
  | longLanguage
  | script
  | region
  /-- The letter of an extension, with or without a subtag after it. -/
  | extension (filled : Bool)
  | privateUse (filled : Bool)
  deriving DecidableEq, Repr

/-- Whether a script may follow. -/
def Place.allowsScript : Place → Bool
  | language _ | longLanguage => true
  | _ => false

/-- Whether a region may follow. -/
def Place.allowsRegion : Place → Bool
  | language _ | longLanguage | script => true
  | _ => false

/-- Whether the tag may end here. -/
def Place.isComplete : Place → Bool
  | extension filled | privateUse filled => filled
  | _ => true

/-- Whether a subtag names a region. -/
def isRegion (s : List Char) : Bool :=
  (s.length = 2 && s.all Char.isAlpha) || (s.length = 3 && s.all Char.isDigit)

/-- Whether a subtag names a variant. -/
def isVariant (s : List Char) : Bool :=
  s.all Char.isAlphanum
    && match s with
      | [] => false
      | c :: _ => (5 ≤ s.length && c.isAlpha) || (4 ≤ s.length && c.isDigit)

/-- Reads the subtag after the place `p`. -/
def step (p : Place) (s : List Char) : Option Place :=
  if s.isEmpty || 8 < s.length || !s.all Char.isAlphanum then none
  else
    match p with
    | .privateUse _ => some (.privateUse true)
    | _ =>
      if s.length = 1 then
        if !p.isComplete then none
        else if s = ['x'] || s = ['X'] then some (.privateUse false)
        else some (.extension false)
      else
        match p with
        | .extension _ => some (.extension true)
        | .language n =>
          if s.length = 3 && s.all Char.isAlpha then if n < 3 then some (.language (n + 1)) else none
          else if s.length = 4 && s.all Char.isAlpha then some .script
          else if isRegion s || isVariant s then some .region
          else none
        | _ =>
          if p.allowsScript && s.length = 4 && s.all Char.isAlpha then some .script
          else if p.allowsRegion && isRegion s then some .region
          else if isVariant s then some .region
          else none

/-- Reads the first subtag. -/
def start (s : List Char) : Option Place :=
  if 2 ≤ s.length && s.length ≤ 8 && s.all Char.isAlpha then
    some (if s.length < 4 then .language 0 else .longLanguage)
  else none

/-- Whether the subtags of a tag follow the grammar. -/
def isRegular : List (List Char) → Bool
  | [] => false
  | s :: rest => ((start s).bind fun p => rest.foldlM step p).any Place.isComplete

/-- Whether a tag is for private use only. -/
def isPrivate : List Char → Bool
  | 'x' :: '-' :: cs | 'X' :: '-' :: cs =>
    !cs.isEmpty && cs.all fun c => c.isAlphanum || c = '-'
  | _ => false

end LanguageTag

/-- Whether `s` is a well-formed language tag. -/
def isLanguageTag (s : String) : Bool :=
  grandfatheredTags.any (Text.sameAscii s)
    || (match s.toList with
        | c :: '-' :: cs =>
          if c = 'x' || c = 'X' then LanguageTag.isPrivate (c :: '-' :: cs)
          else LanguageTag.isRegular (Text.splitOn '-' s.toList)
        | cs => LanguageTag.isRegular (Text.splitOn '-' cs))

end CimSchema
