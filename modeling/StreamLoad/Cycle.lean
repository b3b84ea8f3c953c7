import StreamLoad.Text.Decimal

/-! # Payloads of benchmark cycles

Each publish of a benchmark is tagged with its cycle: the message, a hyphen, and the number of
the cycle. The tag keeps a late copy of one cycle from counting as a delivery of the next.
-/

set_option autoImplicit false

namespace StreamLoad.Cycle

/-- The payload published for a cycle. -/
def payload (message : String) (cycle : Nat) : String :=
  message ++ "-" ++ Decimal.text cycle

/-- What follows `head` in a list of characters that starts with it. -/
def after? : List Char → List Char → Option (List Char)
  | [], rest => some rest
  | _ :: _, [] => none
  | h :: head, c :: rest => if h = c then after? head rest else none

/-- The cycle that a payload is tagged with, if it is one of this message. -/
def ofPayload? (message payload : String) : Option Nat := do
  let tag ← after? message.toList payload.toList
  match tag with
  | '-' :: number => Decimal.read? Decimal.limit64 number
  | _ => none

theorem after?_append (head rest : List Char) : after? head (head ++ rest) = some rest := by
  induction head with
  | nil => cases rest <;> rfl
  | cons c head ih => simp [after?, ih]

/-- The cycle of a payload reads back. -/
theorem ofPayload?_payload {message : String} {cycle : Nat} (h : cycle ≤ Decimal.limit64) :
    ofPayload? message (payload message cycle) = some cycle := by
  have chars : (payload message cycle).toList
      = message.toList ++ ('-' :: Decimal.digits cycle) := by
    simp [payload, Decimal.text]
  simp [ofPayload?, chars, after?_append, Decimal.read?_digits h]

end StreamLoad.Cycle
