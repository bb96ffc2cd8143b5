/-!
# JSON values

Numbers are integers of at most 64 bits or doubles, the latter kept by their bits. The members of
an object stand in the order of their keys, by code point, and each key occurs once.
-/

namespace PolledChannels

inductive Json where
  | null
  | bool (value : Bool)
  | int (value : Int)
  | float (bits : UInt64)
  | string (value : String)
  | array (items : List Json)
  | object (members : List (String × Json))
  deriving Repr, Inhabited

/-- The members of an object, each with its key. -/
abbrev Members := List (String × Json)

namespace Json

/-- Adds a member in its place; a member with the same key is replaced. -/
def insert (key : String) (value : Json) : Members → Members
  | [] => [(key, value)]
  | (k, v) :: rest =>
    if key = k then (key, value) :: rest
    else if key < k then (key, value) :: (k, v) :: rest
    else (k, v) :: insert key value rest

/-- The members in their order, the last of equal keys winning. -/
def sorted (members : Members) : Members :=
  members.foldl (fun ms m => insert m.1 m.2 ms) []

def ofMembers (members : Members) : Json :=
  object (sorted members)

def get? (v : Json) (key : String) : Option Json :=
  match v with
  | object members => members.lookup key
  | _ => none

def string? : Json → Option String
  | string s => some s
  | _ => none

def int? : Json → Option Int
  | int n => some n
  | _ => none

def bool? : Json → Option Bool
  | bool b => some b
  | _ => none

def array? : Json → Option (List Json)
  | array items => some items
  | _ => none

end Json
end PolledChannels
