/-!
# Quoted texts

A text stands between quotes. A backslash starts an escape: for a quote, a
backslash, a slash or one of five control characters by a letter, for any
character by four hexadecimal digits. Four digits do not reach all characters,
so a character beyond them is written as two escapes, each one half of it. A
half without its partner can be written down, but it denotes no text.

Control characters never stand for themselves.
-/

namespace SoundSheet.Json

/-! ## Reading -/

/-- **A piece of a quoted text**. -/
inductive Piece where
  /-- A character, written as itself or as an escape. -/
  | char (c : Char)
  /-- One half of a character that is written as two escapes. -/
  | half (unit : Nat)
  deriving DecidableEq, Repr

/-- The value of a hexadecimal digit. -/
def hexValue? (c : Char) : Option Nat :=
  if c.isDigit then some (c.toNat - '0'.toNat)
  else if 'a' ≤ c ∧ c ≤ 'f' then some (c.toNat - 'a'.toNat + 10)
  else if 'A' ≤ c ∧ c ≤ 'F' then some (c.toNat - 'A'.toNat + 10)
  else none

/-- The number that four hexadecimal digits denote. -/
def unit? (a b c d : Char) : Option Nat := do
  let a ← hexValue? a
  let b ← hexValue? b
  let c ← hexValue? c
  let d ← hexValue? d
  return ((a * 16 + b) * 16 + c) * 16 + d

/-- The piece that an escape with a number stands for. -/
def Piece.ofUnit (n : Nat) : Piece :=
  if 0xD800 ≤ n ∧ n < 0xE000 then half n else char (Char.ofNat n)

/-- The character that an escape with a letter stands for. -/
def escaped? : Char → Option Char
  | '"' => some '"'
  | '\\' => some '\\'
  | '/' => some '/'
  | 'b' => some '\x08'
  | 't' => some '\t'
  | 'n' => some '\n'
  | 'f' => some '\x0c'
  | 'r' => some '\r'
  | _ => none

/-- Whether a character may not stand for itself. -/
def isControl (c : Char) : Bool :=
  c.toNat < 0x20

/-- **The pieces of a text up to its closing quote**, and what follows the
quote. -/
def readPieces : List Char → Option (List Piece × List Char)
  | [] => none
  | '"' :: rest => some ([], rest)
  | '\\' :: 'u' :: a :: b :: c :: d :: rest => do
    let n ← unit? a b c d
    let (pieces, rest) ← readPieces rest
    return (Piece.ofUnit n :: pieces, rest)
  | '\\' :: e :: rest => do
    let c ← escaped? e
    let (pieces, rest) ← readPieces rest
    return (.char c :: pieces, rest)
  | c :: rest =>
    if isControl c then none
    else do
      let (pieces, rest) ← readPieces rest
      return (.char c :: pieces, rest)

/-- The character of a pair of halves. -/
def ofHalves (high low : Nat) : Char :=
  Char.ofNat (0x10000 + (high - 0xD800) * 0x400 + (low - 0xDC00))

/-- **The text that pieces denote**, unless a half stands without its
partner. -/
def joinPieces : List Piece → Option (List Char)
  | [] => some []
  | .char c :: rest => (joinPieces rest).map (c :: ·)
  | .half high :: .half low :: rest =>
    if high < 0xDC00 ∧ 0xDC00 ≤ low then (joinPieces rest).map (ofHalves high low :: ·)
    else none
  | .half _ :: _ => none

/-! ## Writing -/

/-- A hexadecimal digit. -/
def hexDigit (n : Nat) : Char :=
  Char.ofNat (if n < 10 then '0'.toNat + n else 'a'.toNat + (n - 10))

/-- **How a character is written** inside quotes: as itself wherever that is
allowed. -/
def writeChar (c : Char) : List Char :=
  match c with
  | '"' => ['\\', '"']
  | '\\' => ['\\', '\\']
  | '\x08' => ['\\', 'b']
  | '\t' => ['\\', 't']
  | '\n' => ['\\', 'n']
  | '\x0c' => ['\\', 'f']
  | '\r' => ['\\', 'r']
  | c =>
    if isControl c then
      ['\\', 'u', '0', '0', hexDigit (c.toNat / 16), hexDigit (c.toNat % 16)]
    else [c]

/-- **A text in quotes**. -/
def writeText (s : List Char) : List Char :=
  '"' :: s.flatMap writeChar ++ ['"']

/-! ## What is written can be read -/

theorem unit?_hexDigit :
    ∀ n < 0x20, unit? '0' '0' (hexDigit (n / 16)) (hexDigit (n % 16)) = some n := by
  decide

theorem ofUnit_toNat {c : Char} (h : c.toNat < 0xD800) : Piece.ofUnit c.toNat = .char c := by
  have hle : ¬ 0xD800 ≤ c.toNat := Nat.not_le.mpr h
  simp [Piece.ofUnit, hle]

/-- A character that stands for itself is a piece. -/
theorem readPieces_cons {c : Char} (quote : c ≠ '"') (backslash : c ≠ '\\')
    (control : isControl c = false) (s : List Char) :
    readPieces (c :: s) = (readPieces s).map fun (pieces, rest) => (.char c :: pieces, rest) := by
  rw [readPieces]
  · rw [control]
    cases readPieces s <;> rfl
  · exact quote
  · intro _ _ _ _ _ h
    exact absurd h backslash
  · intro _ _ h
    exact absurd h backslash

/-- The escape of a control character by its number is a piece. -/
theorem readPieces_control {c : Char} (h : isControl c = true) (s : List Char) :
    readPieces
        ('\\' :: 'u' :: '0' :: '0' :: hexDigit (c.toNat / 16) :: hexDigit (c.toNat % 16) :: s)
      = (readPieces s).map fun (pieces, rest) => (.char c :: pieces, rest) := by
  have hc : c.toNat < 0x20 := of_decide_eq_true h
  have hpiece := ofUnit_toNat (c := c) (Nat.lt_trans hc (by decide))
  rw [readPieces, unit?_hexDigit _ hc]
  cases readPieces s with
  | none => rfl
  | some r => exact congrArg (fun piece => some (piece :: r.1, r.2)) hpiece

/-- An escape by a letter is a piece. -/
theorem readPieces_escape {e c : Char} (h : escaped? e = some c) (s : List Char) :
    readPieces ('\\' :: e :: s)
      = (readPieces s).map fun (pieces, rest) => (.char c :: pieces, rest) := by
  rw [readPieces, h]
  · cases readPieces s <;> rfl
  · rintro a b c d rest rfl
    cases h

/-- **A written character is one piece.** -/
theorem readPieces_writeChar (c : Char) (s : List Char) :
    readPieces (writeChar c ++ s)
      = (readPieces s).map fun (pieces, rest) => (.char c :: pieces, rest) := by
  unfold writeChar
  split
  · exact readPieces_escape rfl s
  · exact readPieces_escape rfl s
  · exact readPieces_escape rfl s
  · exact readPieces_escape rfl s
  · exact readPieces_escape rfl s
  · exact readPieces_escape rfl s
  · exact readPieces_escape rfl s
  · next c quote backslash _ _ _ _ _ =>
    split
    · next h => exact readPieces_control h s
    · next h =>
      exact readPieces_cons (by simpa using quote) (by simpa using backslash) (by simpa using h) s

/-- **The pieces of a written text are its characters.** -/
theorem readPieces_flatMap_writeChar (t s : List Char) :
    readPieces (t.flatMap writeChar ++ '"' :: s) = some (t.map .char, s) := by
  induction t with
  | nil => rfl
  | cons c t ih =>
    rw [List.flatMap_cons, List.append_assoc, readPieces_writeChar, ih]
    rfl

theorem joinPieces_map_char (t : List Char) : joinPieces (t.map .char) = some t := by
  induction t with
  | nil => rfl
  | cons c t ih => rw [List.map_cons, joinPieces, ih]; rfl

end SoundSheet.Json
