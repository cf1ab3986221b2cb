namespace Phrasebook.Text

def encode (text : List Char) : List UInt8 :=
  text.flatMap String.utf8EncodeChar

def byteLength (text : List Char) : Nat :=
  text.foldl (fun total c => total + c.utf8Size) 0

/-- What a leading byte announces: how many bytes follow it, the range of the first of them, and
    the bits it contributes itself. -/
structure Lead where
  following : Nat
  low : UInt8
  high : UInt8
  bits : Nat

/-- Overlong forms, surrogates and values above the last scalar are excluded by the range of the
    second byte, so a sequence that passes is well formed. -/
def lead? (b : UInt8) : Option Lead :=
  let n := b.toNat
  if n < 0x80 then some ⟨0, 0x80, 0xBF, n⟩
  else if n < 0xC2 then none
  else if n < 0xE0 then some ⟨1, 0x80, 0xBF, n - 0xC0⟩
  else if n = 0xE0 then some ⟨2, 0xA0, 0xBF, 0⟩
  else if n = 0xED then some ⟨2, 0x80, 0x9F, 13⟩
  else if n < 0xF0 then some ⟨2, 0x80, 0xBF, n - 0xE0⟩
  else if n = 0xF0 then some ⟨3, 0x90, 0xBF, 0⟩
  else if n < 0xF4 then some ⟨3, 0x80, 0xBF, n - 0xF0⟩
  else if n = 0xF4 then some ⟨3, 0x80, 0x8F, 4⟩
  else none

def follow : Nat → UInt8 → UInt8 → Nat → List UInt8 → Option Nat × List UInt8
  | 0, _, _, bits, bytes => (some bits, bytes)
  | _ + 1, _, _, _, [] => (none, [])
  | n + 1, low, high, bits, b :: bytes =>
    if low ≤ b && b ≤ high then follow n 0x80 0xBF (bits * 64 + b.toNat % 64) bytes
    else (none, b :: bytes)

theorem length_follow_le (n : Nat) (low high : UInt8) (bits : Nat) (bytes : List UInt8) :
    (follow n low high bits bytes).2.length ≤ bytes.length := by
  induction n generalizing low high bits bytes with
  | zero => simp [follow]
  | succ n ih =>
    cases bytes with
    | nil => simp [follow]
    | cons b rest =>
      simp only [follow]
      split
      · exact Nat.le_succ_of_le (ih ..)
      · simp

/-- The first character of a non-empty byte sequence, none when it is ill formed, and the bytes
    after it. An ill-formed piece ends before the first byte that cannot continue it. -/
def decodeHead (b : UInt8) (bytes : List UInt8) : Option Char × List UInt8 :=
  match lead? b with
  | none => (none, bytes)
  | some lead =>
    match follow lead.following lead.low lead.high lead.bits bytes with
    | (some n, rest) => (some (Char.ofNat n), rest)
    | (none, rest) => (none, rest)

theorem length_decodeHead_le (b : UInt8) (bytes : List UInt8) :
    (decodeHead b bytes).2.length ≤ bytes.length := by
  unfold decodeHead
  split
  · simp
  · rename_i lead _
    have := length_follow_le lead.following lead.low lead.high lead.bits bytes
    split <;> simp_all

def decodePieces : List UInt8 → List (Option Char)
  | [] => []
  | b :: bytes => (decodeHead b bytes).1 :: decodePieces (decodeHead b bytes).2
termination_by bytes => bytes.length
decreasing_by exact Nat.lt_succ_of_le (length_decodeHead_le b bytes)

def replacement : Char := '\uFFFD'

def decodeLossy (bytes : List UInt8) : List Char :=
  (decodePieces bytes).map (·.getD replacement)

inductive DefectKind where
  | invalidStart
  | invalidContinuation
  | unexpectedEnd
  deriving DecidableEq, Repr

structure Defect where
  kind : DefectKind
  start : Nat
  length : Nat
  byte : UInt8
  deriving DecidableEq, Repr

def defectAt (start : Nat) (b : UInt8) (bytes rest : List UInt8) : Defect :=
  let kind :=
    if (lead? b).isNone then .invalidStart
    else if rest.isEmpty then .unexpectedEnd
    else .invalidContinuation
  ⟨kind, start, bytes.length + 1 - rest.length, b⟩

def decodeFrom (offset : Nat) : List UInt8 → Except Defect (List Char)
  | [] => .ok []
  | b :: bytes =>
    match (decodeHead b bytes).1 with
    | some c => return c :: (← decodeFrom (offset + c.utf8Size) (decodeHead b bytes).2)
    | none => .error (defectAt offset b bytes (decodeHead b bytes).2)
termination_by bytes => bytes.length
decreasing_by exact Nat.lt_succ_of_le (length_decodeHead_le b bytes)

def decode (bytes : List UInt8) : Except Defect (List Char) := decodeFrom 0 bytes

def DefectKind.message : DefectKind → String
  | invalidStart => "invalid start byte"
  | invalidContinuation => "invalid continuation byte"
  | unexpectedEnd => "unexpected end of data"

def hexByte (b : UInt8) : String :=
  String.ofList [Nat.digitChar (b.toNat / 16), Nat.digitChar (b.toNat % 16)]

def Defect.message (defect : Defect) : String :=
  let place :=
    if defect.length == 1 then "byte 0x" ++ hexByte defect.byte ++ " in position " ++ toString defect.start
    else
      "bytes in position " ++ toString defect.start ++ "-" ++
        toString (defect.start + defect.length - 1)
  "'utf-8' codec can't decode " ++ place ++ ": " ++ defect.kind.message

def unifyNewlines : List Char → List Char
  | '\r' :: '\n' :: rest => '\n' :: unifyNewlines rest
  | '\r' :: rest => '\n' :: unifyNewlines rest
  | c :: rest => c :: unifyNewlines rest
  | [] => []

end Phrasebook.Text
