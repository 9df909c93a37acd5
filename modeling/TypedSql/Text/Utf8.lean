namespace TypedSql.Text.Utf8

def encode (text : String) : List UInt8 :=
  text.toUTF8.toList

def decode? (bytes : List UInt8) : Option String :=
  String.fromUTF8? (ByteArray.mk bytes.toArray)

/-- The bytes that may follow a leading byte, one range for each: a sequence is cut at the first
byte outside its range. None for a byte that starts no character. -/
def continuations (lead : Nat) : Option (List (Nat × Nat)) :=
  if lead < 0x80 then some []
  else if lead < 0xc2 then none
  else if lead < 0xe0 then some [(0x80, 0xbf)]
  else if lead = 0xe0 then some [(0xa0, 0xbf), (0x80, 0xbf)]
  else if lead = 0xed then some [(0x80, 0x9f), (0x80, 0xbf)]
  else if lead < 0xf0 then some [(0x80, 0xbf), (0x80, 0xbf)]
  else if lead = 0xf0 then some [(0x90, 0xbf), (0x80, 0xbf), (0x80, 0xbf)]
  else if lead < 0xf4 then some [(0x80, 0xbf), (0x80, 0xbf), (0x80, 0xbf)]
  else if lead = 0xf4 then some [(0x80, 0x8f), (0x80, 0xbf), (0x80, 0xbf)]
  else none

/-- How many of the bytes fall into their ranges before the first that does not. -/
def matching : List (Nat × Nat) → List UInt8 → Nat
  | (low, high) :: ranges, byte :: bytes =>
    if low ≤ byte.toNat ∧ byte.toNat ≤ high then matching ranges bytes + 1 else 0
  | _, _ => 0

def scalar (lead : Nat) (tail : List UInt8) : Nat :=
  let first :=
    match tail.length with
    | 0 => lead
    | 1 => lead % 32
    | 2 => lead % 16
    | _ => lead % 8
  tail.foldl (fun value byte => 64 * value + byte.toNat % 64) first

/-- The characters of the bytes, where each longest prefix that starts no character is replaced by
U+FFFD. -/
def decodeLossy : List UInt8 → List Char
  | [] => []
  | lead :: rest =>
    match continuations lead.toNat with
    | none => '\ufffd' :: decodeLossy rest
    | some ranges =>
      let count := matching ranges rest
      let c :=
        if count = ranges.length then Char.ofNat (scalar lead.toNat (rest.take count))
        else '\ufffd'
      c :: decodeLossy (rest.drop count)
termination_by bytes => bytes.length
decreasing_by all_goals simp; try omega

end TypedSql.Text.Utf8
