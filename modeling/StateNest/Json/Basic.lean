/-!
# JSON values

A value as far as a reader can tell its parts. A text is absent where an
escape in it names half of a surrogate pair only. Of a number nothing counts
but whether it is in the range of floating-point numbers. An object keeps all
its members in order, repeated ones too.
-/

set_option autoImplicit false

namespace StateNest

inductive Json where
  | null
  | bool (value : Bool)
  | number (inRange : Bool)
  | string (value : Option String)
  | array (items : List Json)
  | object (members : List (Option String × Json))
  deriving Repr, Inhabited

namespace Json

mutual

/-- How deep arrays and objects are nested. -/
def depth : Json → Nat
  | .array items => itemsDepth items + 1
  | .object members => membersDepth members + 1
  | _ => 0

def itemsDepth : List Json → Nat
  | [] => 0
  | item :: items => max item.depth (itemsDepth items)

def membersDepth : List (Option String × Json) → Nat
  | [] => 0
  | (_, value) :: members => max value.depth (membersDepth members)

end

mutual

/-- Whether every text is present and every number in range. -/
def isSound : Json → Bool
  | .number inRange => inRange
  | .string value => value.isSome
  | .array items => itemsSound items
  | .object members => membersSound members
  | _ => true

def itemsSound : List Json → Bool
  | [] => true
  | item :: items => item.isSound && itemsSound items

def membersSound : List (Option String × Json) → Bool
  | [] => true
  | (name, value) :: members => name.isSome && value.isSound && membersSound members

end

end Json
end StateNest
