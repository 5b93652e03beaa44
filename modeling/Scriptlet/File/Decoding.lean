/-
# Decoding, piece by piece

An encoding says what the bytes at the front of a file stand for: some
characters, or nothing that is text.  Decoding asks it again and again, and the
first bytes that are no text are reported with their place.  An encoding may
keep a state from one piece to the next.
-/
import Scriptlet.File.Fault

namespace Scriptlet.File

/-- What the bytes at the front stand for: the characters of the next `size`
bytes, or why those bytes are no text, or a fault that ends the reading.  The
characters may be given by their numbers. -/
inductive Piece (α : Type) where
  | chars (cs : List α) (size : Nat)
  | bad (size : Nat) (why : BadBytes)
  | fault (fault : Fault)

namespace Piece

variable {α : Type}

/-- One character of `size` bytes. -/
def char (c : α) (size : Nat) : Piece α := .chars [c] size

/-- The bytes up to the end, `rest` and one before it, are too few for a
character. -/
def incomplete (rest : List Nat) : Piece α := .bad (1 + rest.length) .incompleteMultibyte

/-- The first byte begins no character. -/
def illegal : Piece α := .bad 1 .illegalMultibyte

/-- The characters that were found for the next `size` bytes, if any. -/
def ofFound (size : Nat) : Option (List α) → Piece α
  | some cs => .chars cs size
  | none => illegal

/-- The first piece of the bytes `a :: rest` where every byte beyond ASCII
begins a pair, and `found` knows what the pairs are. -/
def ofPair (found : Nat → Nat → Option (List Char)) (a : Nat) (rest : List Nat) :
    Piece Char :=
  if a < 0x80 then .char (Char.ofNat a) 1
  else
    match rest with
    | [] => incomplete []
    | b :: _ => ofFound 2 (found a b)

end Piece

/-- The characters of some bytes, the first of which has the given index.  As
many bytes as `skip` says belong to a piece that has been read already;
`codec` is the name that reports use, and `first` reads the next piece from
its first byte and the bytes behind it, in a state that it may change. -/
def decodeWith {α σ : Type} (codec : String) (first : σ → Nat → List Nat → Piece α × σ)
    (state : σ) (index skip : Nat) : List Nat → Except Fault (List α)
  | [] => .ok []
  | a :: rest =>
    match skip with
    | skip + 1 => decodeWith codec first state (index + 1) skip rest
    | 0 =>
      match first state a rest with
      | (.fault fault, _) => .error fault
      | (.bad size why, _) => .error (.undecodable codec a index (index + size - 1) why)
      | (.chars cs size, state) =>
        (decodeWith codec first state (index + 1) (size - 1) rest).map (cs ++ ·)

/-- The characters of some bytes in an encoding without a state. -/
def decodeFrom {α : Type} (codec : String) (first : Nat → List Nat → Piece α)
    (index skip : Nat) (bytes : List Nat) : Except Fault (List α) :=
  decodeWith codec (fun (_ : Unit) a rest => (first a rest, ())) () index skip bytes

end Scriptlet.File
