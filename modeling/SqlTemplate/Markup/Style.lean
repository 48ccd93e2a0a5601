import SqlTemplate.Markup.Color
import SqlTemplate.Text.Blank

/-! A style is a row of words: attributes, colors, and an address. -/

namespace SqlTemplate.Markup

/-- What a style says. -/
structure Style where
  /-- The attributes that are set, and whether they are set to hold. -/
  attributes : List (String × Bool)
  /-- The color of the characters. -/
  color : Option String
  /-- The color behind the characters. -/
  background : Option String
  /-- The address that the characters lead to. -/
  link : Option String

namespace Style

/-- The attributes in the order in which they are listed, each with its short name if it has one. -/
def attributeNames : List (String × Option String) :=
  [("bold", some "b"), ("dim", some "d"), ("italic", some "i"), ("underline", some "u"),
   ("blink", none), ("blink2", none), ("reverse", some "r"), ("conceal", some "c"),
   ("strike", some "s"), ("underline2", some "uu"), ("frame", none), ("encircle", none),
   ("overline", some "o")]

/-- The attribute of a word. -/
def attribute? (word : String) : Option String :=
  (attributeNames.find? fun (name, short) => name = word || short = some word).map Prod.fst

/-- A style that says nothing. -/
def plain : Style :=
  ⟨[], none, none, none⟩

/-- A style with one attribute set. -/
def setAttribute (style : Style) (name : String) (holds : Bool) : Style :=
  { style with attributes := (name, holds) :: style.attributes.filter fun each => each.1 ≠ name }

/-- A style with what some further words say. -/
def addWords? (style : Style) : List String → Option Style
  | [] => some style
  | word :: rest =>
    let lower := word.map Char.toLower
    if lower = "on" then
      match rest with
      | [] => none
      | color :: others =>
        let color := color.map Char.toLower
        if isColor color then addWords? { style with background := some color } others else none
    else if lower = "not" then
      match rest with
      | [] => none
      | name :: others =>
        match attribute? name with
        | some name => addWords? (style.setAttribute name false) others
        | none => none
    else if lower = "link" then
      match rest with
      | [] => none
      | address :: others => addWords? { style with link := some address } others
    else
      match attribute? lower with
      | some name => addWords? (style.setAttribute name true) rest
      | none =>
        if isColor lower then addWords? { style with color := some lower } rest else none

/-- The words of a style, in one order for all styles that say the same. -/
def words (style : Style) : List String :=
  let attributes := attributeNames.filterMap fun (name, _) =>
    (style.attributes.lookup name).map fun holds => if holds then name else "not " ++ name
  attributes ++ style.color.toList ++
    style.background.toList.flatMap (fun color => ["on", color]) ++
    style.link.toList.flatMap (fun address => ["link", address])

end Style

/-- The words of a text, which blanks divide. -/
def wordsOf (text : Text) : List String :=
  let marked := text.map fun c => if isBlank c then ' ' else c
  ((Text.pieces ' ' marked).filter fun word => !word.isEmpty).map String.ofList

/-- A text that may describe a style, such that two descriptions of one style become the same. What
describes no style is only trimmed and in lower case. -/
def normalStyle (text : Text) : String :=
  if text.trim = "none".toList then "none"
  else
    match Style.plain.addWords? (wordsOf text) with
    | some style => if style.words.isEmpty then "none" else " ".intercalate style.words
    | none => (String.ofList text.trim).map Char.toLower

end SqlTemplate.Markup
