import PullComment.Text.Hex

namespace PullComment.Text

inductive OctetFault where
  | invalidStart
  | invalidContinuation
  | unexpectedEnd
  deriving DecidableEq, Repr

structure MalformedText where
  position : Nat
  octets : List UInt8
  fault : OctetFault
  deriving DecidableEq, Repr

def OctetFault.message : OctetFault → String
  | .invalidStart => "invalid start byte"
  | .invalidContinuation => "invalid continuation byte"
  | .unexpectedEnd => "unexpected end of data"

def MalformedText.message (m : MalformedText) : String :=
  let place := match m.octets with
    | [octet] =>
        "byte 0x" ++ String.ofList (hexDigits 2 octet.toNat) ++ " in position " ++ toString m.position
    | octets =>
        "bytes in position " ++ toString m.position ++ "-" ++ toString (m.position + octets.length - 1)
  "'utf-8' codec can't decode " ++ place ++ ": " ++ m.fault.message

def encodeChar (c : Char) : List UInt8 :=
  let n := c.toNat
  if n < 0x80 then [n.toUInt8]
  else if n < 0x800 then [(0xC0 + n / 64).toUInt8, (0x80 + n % 64).toUInt8]
  else if n < 0x10000 then
    [(0xE0 + n / 4096).toUInt8, (0x80 + n / 64 % 64).toUInt8, (0x80 + n % 64).toUInt8]
  else
    [(0xF0 + n / 262144).toUInt8, (0x80 + n / 4096 % 64).toUInt8,
      (0x80 + n / 64 % 64).toUInt8, (0x80 + n % 64).toUInt8]

def encodeText (s : String) : List UInt8 :=
  s.toList.flatMap encodeChar

def leadOctet (n : Nat) : Option (Nat × Nat) :=
  if n < 0x80 then some (0, n)
  else if n < 0xC2 then none
  else if n < 0xE0 then some (1, n - 0xC0)
  else if n < 0xF0 then some (2, n - 0xE0)
  else if n < 0xF5 then some (3, n - 0xF0)
  else none

def secondOctetBounds (lead : Nat) : Nat × Nat :=
  if lead = 0xE0 then (0xA0, 0xBF)
  else if lead = 0xED then (0x80, 0x9F)
  else if lead = 0xF0 then (0x90, 0xBF)
  else if lead = 0xF4 then (0x80, 0x8F)
  else (0x80, 0xBF)

def continuation : Nat → Nat × Nat → Nat → Nat → List UInt8 → Except (Nat × OctetFault) (Nat × List UInt8)
  | 0, _, value, _, rest => .ok (value, rest)
  | _ + 1, _, _, taken, [] => .error (taken, .unexpectedEnd)
  | count + 1, bounds, value, taken, octet :: rest =>
      if bounds.1 ≤ octet.toNat ∧ octet.toNat ≤ bounds.2 then
        continuation count (0x80, 0xBF) (value * 64 + (octet.toNat - 0x80)) (taken + 1) rest
      else .error (taken, .invalidContinuation)

theorem length_continuation {count bounds value taken octets n rest}
    (h : continuation count bounds value taken octets = .ok (n, rest)) :
    rest.length ≤ octets.length := by
  induction count generalizing bounds value taken octets with
  | zero => simp_all [continuation]
  | succ count ih =>
      cases octets with
      | nil => simp [continuation] at h
      | cons octet tail =>
          simp only [continuation] at h
          split at h
          · have := ih h
            simp only [List.length_cons]
            omega
          · simp at h

def nextChar (lead : UInt8) (rest : List UInt8) : Except (Nat × OctetFault) (Nat × List UInt8) :=
  match leadOctet lead.toNat with
  | none => .error (1, .invalidStart)
  | some (count, value) => continuation count (secondOctetBounds lead.toNat) value 1 rest

theorem length_nextChar {lead rest n tail} (h : nextChar lead rest = .ok (n, tail)) :
    tail.length ≤ rest.length := by
  unfold nextChar at h
  split at h
  · simp at h
  · exact length_continuation h

def decodeFrom (position : Nat) (done : List Char) (octets : List UInt8) :
    Except MalformedText (List Char) :=
  match octets with
  | [] => .ok done.reverse
  | lead :: rest =>
      match h : nextChar lead rest with
      | .ok (n, tail) =>
          decodeFrom (position + (rest.length + 1 - tail.length)) (Char.ofNat n :: done) tail
      | .error (count, fault) => .error ⟨position, (lead :: rest).take count, fault⟩
termination_by octets.length
decreasing_by
  have := length_nextChar h
  simp only [List.length_cons]
  omega

def decodeText (octets : List UInt8) : Except MalformedText (List Char) :=
  decodeFrom 0 [] octets

end PullComment.Text
