import LintBridge.Text.Digit

/-!
UTF-8: characters to octets and back.

Octets are read as a sequence of items: a character, or a fault that covers the longest start of a
well-formed sequence found there (one octet where none starts). Strict reading stops at the first
fault and says where it is and what is wrong with it; lenient reading puts the replacement character
in the place of each fault. Every item covers at least one octet (`Item.width_pos`).
-/
set_option autoImplicit false

namespace LintBridge.Text.Utf8

def encode (text : List Char) : List UInt8 := text.flatMap String.utf8EncodeChar

inductive Fault where
  /-- No sequence starts with this octet. -/
  | start
  /-- The octet behind those covered does not continue the sequence. -/
  | continuation
  /-- The octets end within a sequence. -/
  | truncated
  deriving DecidableEq, Repr

/-- What the octets at one place are: a character or a fault, and how many octets it covers. -/
inductive Item where
  | char (c : Char) (extra : Nat)
  | fault (kind : Fault) (extra : Nat)
  deriving Repr

def Item.width : Item → Nat
  | .char _ extra => extra + 1
  | .fault _ extra => extra + 1

theorem Item.width_pos (item : Item) : 0 < item.width := by
  cases item <;> simp [Item.width]

/-- An octet of the form 10xxxxxx. -/
def isContinuation (b : UInt8) : Bool := 0x80 ≤ b && b ≤ 0xBF

/-- The six bits that a continuation octet carries. -/
def payload (b : UInt8) : Nat := b.toNat % 64

/-- Whether `second` may follow the lead octet of a three-octet sequence: the sequence is neither
longer than it needs to be nor the code of a surrogate. -/
def secondOfThree (lead second : UInt8) : Bool :=
  isContinuation second && !(lead == 0xE0 && second < 0xA0) && !(lead == 0xED && 0xA0 ≤ second)

/-- Whether `second` may follow the lead octet of a four-octet sequence: the sequence is neither
longer than it needs to be nor beyond the last code point. -/
def secondOfFour (lead second : UInt8) : Bool :=
  isContinuation second && !(lead == 0xF0 && second < 0x90) && !(lead == 0xF4 && 0x90 ≤ second)

def itemAt (b : UInt8) (rest : List UInt8) : Item :=
  if b < 0x80 then .char (Char.ofNat b.toNat) 0
  else if b < 0xC2 then .fault .start 0
  else if b < 0xE0 then
    match rest with
    | [] => .fault .truncated 0
    | b₂ :: _ =>
      if isContinuation b₂ then .char (Char.ofNat (b.toNat % 32 * 64 + payload b₂)) 1
      else .fault .continuation 0
  else if b < 0xF0 then
    match rest with
    | [] => .fault .truncated 0
    | b₂ :: behind =>
      if secondOfThree b b₂ then
        match behind with
        | [] => .fault .truncated 1
        | b₃ :: _ =>
          if isContinuation b₃ then
            .char (Char.ofNat (b.toNat % 16 * 4096 + payload b₂ * 64 + payload b₃)) 2
          else .fault .continuation 1
      else .fault .continuation 0
  else if b < 0xF5 then
    match rest with
    | [] => .fault .truncated 0
    | b₂ :: behind =>
      if secondOfFour b b₂ then
        match behind with
        | [] => .fault .truncated 1
        | b₃ :: last =>
          if isContinuation b₃ then
            match last with
            | [] => .fault .truncated 2
            | b₄ :: _ =>
              if isContinuation b₄ then
                .char (Char.ofNat (b.toNat % 8 * 262144 + payload b₂ * 4096 + payload b₃ * 64 +
                  payload b₄)) 3
              else .fault .continuation 2
          else .fault .continuation 1
      else .fault .continuation 0
  else .fault .start 0

def items : List UInt8 → List Item
  | [] => []
  | b :: rest =>
    let item := itemAt b rest
    item :: items (rest.drop (item.width - 1))
termination_by octets => octets.length
decreasing_by simp only [List.length_drop, List.length_cons]; omega

/-- A fault found by strict reading: its kind, the place of its first octet, the number of octets
it covers, and that first octet. -/
structure DecodeError where
  kind : Fault
  start : Nat
  width : Nat
  octet : UInt8
  deriving Repr

/-- The text of the items, or the first fault among them; `octets` are those that the items were
read from and `start` is the place of the first of them. -/
def collect (start : Nat) (octets : List UInt8) : List Item → Except DecodeError (List Char)
  | [] => .ok []
  | .char c extra :: more =>
    (collect (start + extra + 1) (octets.drop (extra + 1)) more).map (c :: ·)
  | .fault kind extra :: _ => .error ⟨kind, start, extra + 1, octets.headD 0⟩

/-- The text that well-formed octets encode. -/
def decode (octets : List UInt8) : Except DecodeError (List Char) :=
  collect 0 octets (items octets)

/-- The text that octets encode, with the replacement character for each fault. -/
def decodeLenient (octets : List UInt8) : List Char :=
  (items octets).map fun item =>
    match item with
    | .char c _ => c
    | .fault _ _ => Char.ofNat 0xFFFD

def Fault.message : Fault → String
  | .start => "invalid start byte"
  | .continuation => "invalid continuation byte"
  | .truncated => "unexpected end of data"

def DecodeError.message (e : DecodeError) : String :=
  if e.width = 1 then
    let octet := String.ofList (hexDigits 2 e.octet.toNat)
    s!"'utf-8' codec can't decode byte 0x{octet} in position {e.start}: {e.kind.message}"
  else
    let last := e.start + e.width - 1
    s!"'utf-8' codec can't decode bytes in position {e.start}-{last}: {e.kind.message}"

end LintBridge.Text.Utf8
