import SqlTemplate.Decimal.Rounded
import SqlTemplate.Log.Directive
import SqlTemplate.Report

/-! A message is completed by its arguments, each shown as its directive says. -/

namespace SqlTemplate

/-- Why a message is not completed. -/
inductive MessageFault where
  /-- A directive names its argument, and the arguments have no names. -/
  | unnamed
  /-- The name of an argument is not closed. -/
  | keyUnclosed
  /-- No argument has the name. -/
  | keyMissing (name : Text)
  /-- No argument is left for a directive. -/
  | tooFew
  /-- Arguments are left. -/
  | tooMany
  /-- A size is no integer. -/
  | sizeNotInteger
  /-- A width in the message does not fit into sixty-four bits. -/
  | widthTooLarge
  /-- A precision in the message does not fit into thirty-two bits. -/
  | precisionTooLarge
  /-- A width among the arguments does not fit into sixty-four bits. -/
  | widthOutOfRange
  /-- A precision among the arguments does not fit into thirty-two bits. -/
  | precisionOutOfRange
  /-- An integer would need more digits than can be counted. -/
  | tooManyDigits
  /-- There is no room for a text of the width. -/
  | noRoom
  /-- The message ends within a directive. -/
  | unfinished
  /-- A letter says nothing. -/
  | unknownLetter (letter : Char) (place : Nat)
  /-- An argument is no number, where a fraction would be cut off. -/
  | notNumber (letter : Char) (kindName : String)
  /-- An argument is no integer. -/
  | notInteger (letter : Char) (kindName : String)
  /-- An argument is no number, where a fraction would be shown. -/
  | notReal (kindName : String)
  /-- An argument is neither a character nor its number. -/
  | notCharacter
  /-- No character has the number. -/
  | characterTooLarge
  /-- An argument is not a number, though of the kind of numbers. -/
  | notANumber
  /-- An argument is infinite. -/
  | infinite
  /-- An argument is greater than every floating-point number. -/
  | tooLarge

/-- The report of a message that is not completed. -/
def MessageFault.report : MessageFault → Report
  | unnamed => .plain "TypeError" "format requires a mapping"
  | keyUnclosed => .plain "ValueError" "incomplete format key"
  | keyMissing name => .plain "KeyError" (String.ofList (Quoted.ofText name))
  | tooFew => .plain "TypeError" "not enough arguments for format string"
  | tooMany => .plain "TypeError" "not all arguments converted during string formatting"
  | sizeNotInteger => .plain "TypeError" "* wants int"
  | widthTooLarge => .plain "ValueError" "width too big"
  | precisionTooLarge => .plain "ValueError" "precision too big"
  | widthOutOfRange => .plain "OverflowError" "Python int too large to convert to C ssize_t"
  | precisionOutOfRange => .plain "OverflowError" "Python int too large to convert to C int"
  | tooManyDigits => .plain "OverflowError" "precision too large"
  | noRoom => .plain "MemoryError" ""
  | unfinished => .plain "ValueError" "incomplete format"
  | unknownLetter letter place =>
    let shown := if 31 ≤ letter.toNat && letter.toNat ≤ 126 then letter else '?'
    let number := String.ofList (Nat.toDigits 16 letter.toNat)
    .plain "ValueError" s!"unsupported format character '{shown}' (0x{number}) at index {place}"
  | notNumber letter kindName =>
    .plain "TypeError" s!"%{letter} format: a real number is required, not {kindName}"
  | notInteger letter kindName =>
    .plain "TypeError" s!"%{letter} format: an integer is required, not {kindName}"
  | notReal kindName => .plain "TypeError" s!"must be real number, not {kindName}"
  | notCharacter => .plain "TypeError" "%c requires int or char"
  | characterTooLarge => .plain "OverflowError" "%c arg not in range(0x110000)"
  | notANumber => .plain "ValueError" "cannot convert float NaN to integer"
  | infinite => .plain "OverflowError" "cannot convert float infinity to integer"
  | tooLarge => .plain "OverflowError" "int too large to convert to float"

/-- The arguments that are left. -/
structure MessageSupply where
  /-- What the next directives without a name take. -/
  queue : List Value
  /-- The arguments by name, if they have names. -/
  entries : Option Entries

namespace Value

/-- The number of a value that counts as an integer. -/
def integer? : Value → Option Int
  | int n => some n
  | bool flag => some (if flag then 1 else 0)
  | _ => none

/-- The integer part of a number. -/
def truncated (letter : Char) (value : Value) : Except MessageFault Int :=
  match value.integer?, value with
  | some n, _ => .ok n
  | none, float x =>
    if x.isNaN then .error .notANumber
    else if x.isInf then .error .infinite
    else
      let number := Decimal.Binary.ofBits x.toBits
      let size : Int := (number.numerator / number.denominator : Nat)
      .ok (if x.toBits >>> 63 = 1 then -size else size)
  | none, other => .error (.notNumber letter other.kindName)

/-- A number as a floating-point number. -/
def real (value : Value) : Except MessageFault Float :=
  match value.integer?, value with
  | some n, _ =>
    let x := Float.ofInt n
    if x.isInf then .error .tooLarge else .ok x
  | none, float x => .ok x
  | none, other => .error (.notReal other.kindName)

/-- The character of a value that is one character or the number of one. -/
def character (value : Value) : Except MessageFault Char :=
  match value.integer?, value with
  | some n, _ =>
    if n < 0 || 0x10FFFF < n then .error .characterTooLarge else .ok (Char.ofNat n.toNat)
  | none, str text =>
    match text.toList with
    | [c] => .ok c
    | _ => .error .notCharacter
  | none, _ => .error .notCharacter

end Value

/-- A number in parts, between which zeros and around which spaces may come. -/
structure Figure where
  /-- Whether it is below zero. -/
  isNegative : Bool
  /-- The mark of its base. -/
  mark : Text
  /-- Its digits, or the name of what is no finite number. -/
  digits : Text

namespace Figure

/-- An integer in some base with at least as many digits as the precision says. -/
def ofInt (base : Nat) (mark : Text) (precision : Option Nat) (n : Int) : Figure :=
  let digits := Nat.toDigits base n.natAbs
  ⟨n < 0, mark, List.replicate (precision.getD 0 - digits.length) '0' ++ digits⟩

/-- A floating-point number, in the notation that a letter in lower case says. -/
def ofFloat (letter : Char) (precision : Option Nat) (keepsPoint : Bool) (x : Float) : Figure :=
  let isNegative := !x.isNaN && x.toBits >>> 63 = 1
  let places := precision.getD 6
  let number := Decimal.Binary.ofBits x.toBits
  let digits :=
    if x.isNaN then "nan"
    else if x.isInf then "inf"
    else if letter = 'f' then number.fixed places keepsPoint
    else if letter = 'e' then number.exponential places keepsPoint
    else number.general places keepsPoint
  ⟨isNegative, [], digits.toList⟩

/-- A number with its letters in upper case. -/
def upper (figure : Figure) : Figure :=
  ⟨figure.isNegative, figure.mark.map Char.toUpper, figure.digits.map Char.toUpper⟩

end Figure

/-- Where a text stands in its width. -/
structure Alignment where
  /-- Whether it stands at the left. -/
  left : Bool
  /-- The least length. -/
  width : Nat

namespace Alignment

/-- A text in its width. -/
def place (alignment : Alignment) (text : Text) : Text :=
  let spaces := List.replicate (alignment.width - text.length) ' '
  if alignment.left then text ++ spaces else spaces ++ text

/-- A number in its width, filled up with zeros after its sign and mark if the flags say so. -/
def placeFigure (alignment : Alignment) (flags : DirectiveFlags) (figure : Figure) : Text :=
  let sign := if figure.isNegative then ['-'] else if flags.plus then ['+']
    else if flags.space then [' '] else []
  let start := sign ++ figure.mark
  let zeros :=
    if flags.zero && !alignment.left then
      List.replicate (alignment.width - (start ++ figure.digits).length) '0'
    else []
  alignment.place (start ++ zeros ++ figure.digits)

end Alignment

/-- A character beyond the lower half, by its number. -/
def Quoted.beyondAscii (c : Char) : Text :=
  if c.toNat < 0x80 then [c] else Quoted.numbered c

/-- What completes a message: the arguments that are left, until something does not fit. -/
abbrev Completing := StateT MessageSupply (Except MessageFault)

namespace Directive

/-- The next argument without a name. -/
def take : Completing Value := do
  let supply ← get
  match supply.queue with
  | [] => throw .tooFew
  | value :: rest => set { supply with queue := rest }; return value

/-- A size within a limit, which the next argument gives if the directive does not. -/
def size (limit : Int) (givenBeyond takenBeyond : MessageFault) (size : Option DirectiveSize) :
    Completing (Option Int) := do
  match size with
  | none => return none
  | some (.given n) => if (n : Int) < limit then return some n else throw givenBeyond
  | some .taken =>
    match (← take).integer? with
    | some n => if -limit ≤ n && n < limit then return some n else throw takenBeyond
    | none => throw .sizeNotInteger

/-- The greatest precision of an integer, which leaves room for its sign and its mark. -/
def mostDigits : Nat := 2147483644

/-- The greatest width that there is room for. -/
def mostColumns : Nat := 2147483647

/-- A named argument becomes the next one. -/
def choose (key : Option DirectiveKey) : Completing Unit := do
  let supply ← get
  match key, supply.entries with
  | none, _ => return
  | some _, none => throw .unnamed
  | some .unclosed, some _ => throw .keyUnclosed
  | some (.closed name), some entries =>
    match Entries.get? entries (String.ofList name) with
    | some value => set { supply with queue := [value] }
    | none => throw (.keyMissing name)

/-- A value in the form that a letter says. -/
def show? (flags : DirectiveFlags) (alignment : Alignment) (precision : Option Nat)
    (letter : Char) (place : Nat) (value : Value) : Except MessageFault Text :=
  let cut (text : Text) : Text := alignment.place (text.take (precision.getD text.length))
  let digits (base : Nat) (mark : Text) (n : Int) : Except MessageFault Figure :=
    if mostDigits < precision.getD 0 then .error .tooManyDigits
    else .ok (.ofInt base mark precision n)
  let whole (base : Nat) (mark : Text) : Except MessageFault Figure :=
    match value.integer? with
    | some n => digits base (if flags.alternate then mark else []) n
    | none => .error (.notInteger letter value.kindName)
  let real : Except MessageFault Figure :=
    value.real.map (.ofFloat letter.toLower precision flags.alternate)
  let figure (found : Except MessageFault Figure) : Except MessageFault Text :=
    found.map (alignment.placeFigure flags)
  match letter with
  | 's' => .ok (cut value.plain.toList)
  | 'r' => .ok (cut value.shown.toList)
  | 'a' => .ok (cut (value.shown.toList.flatMap Quoted.beyondAscii))
  | 'c' => value.character.map fun c => alignment.place [c]
  | 'd' | 'i' | 'u' => figure ((value.truncated letter).bind (digits 10 []))
  | 'o' => figure (whole 8 ['0', 'o'])
  | 'x' => figure (whole 16 ['0', 'x'])
  | 'X' => figure ((whole 16 ['0', 'x']).map Figure.upper)
  | 'e' | 'f' | 'g' => figure real
  | 'E' | 'F' | 'G' => figure (real.map Figure.upper)
  | _ => .error (.unknownLetter letter place)

/-- The text of a directive. -/
def fill (directive : Directive) : Completing Text := do
  choose directive.key
  let width ← size 0x8000000000000000 .widthTooLarge .widthOutOfRange directive.width
  let precision ← size 0x80000000 .precisionTooLarge .precisionOutOfRange directive.precision
  match directive.letter with
  | none => throw .unfinished
  | some letter =>
    let value ← take
    let columns := width.getD 0
    -- A width below zero asks for the left side, and a precision below zero counts as zero.
    let shown (width : Nat) := show? directive.flags ⟨directive.flags.left || columns < 0, width⟩
      (precision.map Int.toNat) letter directive.place value
    if columns.natAbs ≤ mostColumns then liftM (shown columns.natAbs)
    else
      -- What is wrong with the value shows before there is no room for its text.
      let _ ← liftM (shown 0)
      throw .noRoom

end Directive

namespace Message

/-- The text of a piece. -/
def fillPiece : MessagePiece → Completing Text
  | .plain c => return [c]
  | .directive directive => directive.fill

/-- The arguments of a message. A single mapping with entries gives them names. -/
def supply (arguments : List Value) : MessageSupply :=
  match arguments with
  | [.mapping (entry :: rest)] => ⟨arguments, some (entry :: rest)⟩
  | _ => ⟨arguments, none⟩

/-- A message with its arguments. Without any, its directives stand for themselves. -/
def complete (message : Text) (arguments : List Value) : Except MessageFault Text :=
  if arguments.isEmpty then .ok message
  else do
    let pieces := MessagePiece.ofText message.length message
    let (texts, left) ← (pieces.mapM fillPiece).run (supply arguments)
    if left.queue.isEmpty || left.entries.isSome then return texts.flatten
    else throw .tooMany

end Message

end SqlTemplate
