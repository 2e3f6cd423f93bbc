import Statechart.Json.Value

/-!
What a reader makes of a JSON text before it knows which shape is asked for.

A text is refused at its first problem, in text order, and a problem of shape
may stand before a problem of grammar. A `Reading` therefore keeps the outline
of the text together with the places where the text stops being JSON, and a
decoder that walks the reading in text order meets both kinds of problem in
their order.

Some rules are weaker for a value that nobody asked for: inside it escapes need
not pair up into characters, numbers need not fit a double, and brackets may
nest without bound. So where the text stops being JSON the report depends on
who asks, and the reading keeps a report for each of them.
-/

namespace Statechart.Json

/-! Why a text is refused: it is no JSON, it is JSON of another shape, or it
ends too early. -/

inductive Fault where
  | malformed
  | mismatched
  | truncated
  deriving DecidableEq, Repr

def Fault.category : Fault → String
  | .malformed => "syntax"
  | .mismatched => "data"
  | .truncated => "eof"

def Fault.message (fault : Fault) : String :=
  "<json " ++ fault.category ++ ">"

/-! A number is a 64-bit word, a number that no field of the format accepts, or
one beyond the range of a double. -/

inductive Numeral where
  | word (value : UInt64)
  | other
  | excessive
  deriving DecidableEq, Repr

/-! A place where the text stops being JSON is reported by a decoder that wants
what stands there, by one that passes over it, by one that expects a name of a
fixed choice, and by one that expects such a name or null. -/

structure Breach where
  wanted : Fault
  skipped : Fault
  naming : Fault
  namingOrNull : Fault := naming
  deriving DecidableEq, Repr

namespace Breach

/-- The same report for everyone. -/
def plain (fault : Fault) : Breach where
  wanted := fault
  skipped := fault
  naming := fault

/-- The breach as it stands before a decoder that accepts null as well. -/
def orNull (breach : Breach) : Breach :=
  { breach with naming := breach.namingOrNull }

end Breach

/-! In the outline of a text:

- a text value or key of `none` has an escape that names no character;
- `broken` stands where a value is due and none can be read to its end;
- `keyless` stands where a key is due and none can be read to its end;
- `stopped` stands where neither a comma nor the closing bracket follows. -/

mutual
inductive Reading where
  | null
  | flag (value : Bool)
  | number (value : Numeral)
  | text (value : Option String)
  | list (items : Items)
  | object (members : Members)
  | broken (breach : Breach)

inductive Items where
  | done
  | next (item : Reading) (rest : Items)
  | stopped (fault : Fault)

inductive Members where
  | done
  | next (key : Option String) (value : Reading) (rest : Members)
  | stopped (fault : Fault)
  | keyless (breach : Breach)
end

/-! The outline of a value's own text. -/

mutual
def Reading.ofJson : Json → Reading
  | .null => .null
  | .flag value => .flag value
  | .number value => .number (.word value)
  | .text value => .text (some value)
  | .list items => .list (Items.ofJson items)
  | .object members => .object (Members.ofJson members)

def Items.ofJson : List Json → Items
  | [] => .done
  | item :: items => .next (Reading.ofJson item) (Items.ofJson items)

def Members.ofJson : List (String × Json) → Members
  | [] => .done
  | (key, value) :: members =>
      .next (some key) (Reading.ofJson value) (Members.ofJson members)
end

namespace Reading

/-! The report on a value of the wrong kind. A scalar is read to its end before
it is refused; a list or an object is refused at its bracket. -/

def refusal : Reading → Fault
  | .broken breach => breach.wanted
  | .number .excessive => .malformed
  | .text none => .malformed
  | _ => .mismatched

end Reading

/-! Reading a value whole, whatever its shape, with `room` brackets left to
open. -/

mutual
def Reading.whole : Nat → Reading → Except Fault Unit
  | _, .broken breach => .error breach.wanted
  | _, .number .excessive => .error .malformed
  | _, .text none => .error .malformed
  | 0, .list _ => .error .malformed
  | room + 1, .list items => items.whole room
  | 0, .object _ => .error .malformed
  | room + 1, .object members => members.whole room
  | _, _ => .ok ()

def Items.whole : Nat → Items → Except Fault Unit
  | _, .done => .ok ()
  | room, .next item rest => do
      item.whole room
      rest.whole room
  | _, .stopped fault => .error fault

def Members.whole : Nat → Members → Except Fault Unit
  | _, .done => .ok ()
  | _, .next none _ _ => .error .malformed
  | room, .next (some _) value rest => do
      value.whole room
      rest.whole room
  | _, .stopped fault => .error fault
  | _, .keyless breach => .error breach.wanted
end

/-! Passing over a value. -/

mutual
def Reading.skip : Reading → Except Fault Unit
  | .broken breach => .error breach.skipped
  | .list items => items.skip
  | .object members => members.skip
  | _ => .ok ()

def Items.skip : Items → Except Fault Unit
  | .done => .ok ()
  | .next item rest => do
      item.skip
      rest.skip
  | .stopped fault => .error fault

def Members.skip : Members → Except Fault Unit
  | .done => .ok ()
  | .next _ value rest => do
      value.skip
      rest.skip
  | .stopped fault => .error fault
  | .keyless breach => .error breach.skipped
end

end Statechart.Json
