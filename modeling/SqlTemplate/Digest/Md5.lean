import SqlTemplate.Text.Quoted

/-! The MD5 digest of a text tells two contents apart by thirty-two hexadecimal digits. -/

namespace SqlTemplate.Md5

/-- The four words that the blocks of a message are mixed into. -/
structure State where
  /-- The first word. -/
  a : UInt32
  /-- The second word. -/
  b : UInt32
  /-- The third word. -/
  c : UInt32
  /-- The fourth word. -/
  d : UInt32

/-- The words before the first block. -/
def State.initial : State :=
  ⟨0x67452301, 0xEFCDAB89, 0x98BADCFE, 0x10325476⟩

/-- The whole parts of the sines of the first sixty-four numbers, scaled to a word. -/
def sines : Array UInt32 :=
  #[0xD76AA478, 0xE8C7B756, 0x242070DB, 0xC1BDCEEE, 0xF57C0FAF, 0x4787C62A,
    0xA8304613, 0xFD469501, 0x698098D8, 0x8B44F7AF, 0xFFFF5BB1, 0x895CD7BE,
    0x6B901122, 0xFD987193, 0xA679438E, 0x49B40821, 0xF61E2562, 0xC040B340,
    0x265E5A51, 0xE9B6C7AA, 0xD62F105D, 0x02441453, 0xD8A1E681, 0xE7D3FBC8,
    0x21E1CDE6, 0xC33707D6, 0xF4D50D87, 0x455A14ED, 0xA9E3E905, 0xFCEFA3F8,
    0x676F02D9, 0x8D2A4C8A, 0xFFFA3942, 0x8771F681, 0x6D9D6122, 0xFDE5380C,
    0xA4BEEA44, 0x4BDECFA9, 0xF6BB4B60, 0xBEBFBC70, 0x289B7EC6, 0xEAA127FA,
    0xD4EF3085, 0x04881D05, 0xD9D4D039, 0xE6DB99E5, 0x1FA27CF8, 0xC4AC5665,
    0xF4292244, 0x432AFF97, 0xAB9423A7, 0xFC93A039, 0x655B59C3, 0x8F0CCC92,
    0xFFEFF47D, 0x85845DD1, 0x6FA87E4F, 0xFE2CE6E0, 0xA3014314, 0x4E0811A1,
    0xF7537E82, 0xBD3AF235, 0x2AD7D2BB, 0xEB86D391]

/-- How far each of the four steps of each round turns a word. -/
def turns : Array UInt32 :=
  #[7, 12, 17, 22, 5, 9, 14, 20, 4, 11, 16, 23, 6, 10, 15, 21]

/-- A word turned to the left. -/
def turnLeft (word amount : UInt32) : UInt32 :=
  (word <<< amount) ||| (word >>> (32 - amount))

/-- The mixing function of a step, and the position of the block's word that it takes. -/
def mix (state : State) (step : Nat) : UInt32 × Nat :=
  match step / 16 with
  | 0 => ((state.b &&& state.c) ||| (~~~state.b &&& state.d), step)
  | 1 => ((state.d &&& state.b) ||| (~~~state.d &&& state.c), (5 * step + 1) % 16)
  | 2 => (state.b ^^^ state.c ^^^ state.d, (3 * step + 5) % 16)
  | _ => (state.c ^^^ (state.b ||| ~~~state.d), 7 * step % 16)

/-- The state after one of the sixty-four steps on a block. -/
def turn (block : Array UInt32) (state : State) (step : Nat) : State :=
  let (mixed, position) := mix state step
  let sum := state.a + mixed + sines.getD step 0 + block.getD position 0
  let amount := turns.getD (step / 16 * 4 + step % 4) 0
  ⟨state.d, state.b + turnLeft sum amount, state.b, state.c⟩

/-- The state after a block, which is added to the state before it. -/
def compress (state : State) (block : Array UInt32) : State :=
  let mixed := (List.range 64).foldl (turn block) state
  ⟨state.a + mixed.a, state.b + mixed.b, state.c + mixed.c, state.d + mixed.d⟩

/-- The bytes of a number, the lowest first. -/
def lowBytes (count n : Nat) : List UInt8 :=
  (List.range count).map fun place => UInt8.ofNat (n / Nat.pow 256 place)

/-- A message with the end mark, zeros up to the last eight bytes of a block, and its bit count. -/
def pad (message : List UInt8) : List UInt8 :=
  message ++ 0x80 :: List.replicate ((119 - message.length % 64) % 64) 0 ++
    lowBytes 8 (message.length * 8)

/-- The words of a sequence of bytes, each from four bytes with the lowest first. -/
def words : List UInt8 → List UInt32
  | a :: b :: c :: d :: rest =>
    UInt32.ofNat (a.toNat + 256 * (b.toNat + 256 * (c.toNat + 256 * d.toNat))) :: words rest
  | _ => []

/-- The state after a sequence of words, taken in blocks of sixteen. -/
def digestWords (state : State) (remaining : List UInt32) : State :=
  if remaining.isEmpty then state
  else digestWords (compress state (remaining.take 16).toArray) (remaining.drop 16)
termination_by remaining.length
decreasing_by
  rename_i more
  simp only [List.isEmpty_iff] at more
  have := List.length_pos_iff.mpr more
  simp only [List.length_drop]
  omega

/-- The digest of a sequence of bytes in hexadecimal digits. -/
def ofBytes (message : List UInt8) : String :=
  let state := digestWords .initial (words (pad message))
  let bytes := [state.a, state.b, state.c, state.d].flatMap fun word => lowBytes 4 word.toNat
  String.ofList (bytes.flatMap fun byte => Quoted.hex 2 byte.toNat)

/-- The digest of a text as its UTF-8 bytes. -/
def ofText (text : Text) : String :=
  ofBytes (String.ofList text).toUTF8.toList

end SqlTemplate.Md5
