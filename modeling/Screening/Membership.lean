import Screening.IndexKey
import Screening.Record

/-!
# Groups and their members

A table lists the members of named groups, such as the symbols of an index, as
they were supplied. A look-up goes through its directory, in which groups whose
names have one key are merged and members are canonical symbols.
-/

set_option autoImplicit false

namespace Screening

structure MembershipTable where
  groups : List (String × List String)
  ascending : Keyed.ascending groups = true
  deriving DecidableEq

namespace MembershipTable

def empty : MembershipTable := ⟨[], rfl⟩

def set (t : MembershipTable) (group : String) (members : List String) : MembershipTable :=
  ⟨Keyed.insert group members t.groups, Keyed.ascending_insert _ _ _ t.ascending⟩

def insert (t : MembershipTable) (group : String) (members : List String) : MembershipTable :=
  t.set group ((t.groups.lookup group).getD [] ++ members)

def size (t : MembershipTable) : Nat := t.groups.length

def toJson (t : MembershipTable) : Json :=
  .object (t.groups.map fun g => (g.1, .strings g.2))

/-- A group that is listed twice keeps its last list. -/
def reader : Json.Nested MembershipTable :=
  Json.map (fun group members table => table.set group members) empty
    (Json.list fun _ => Json.text)

end MembershipTable

def symbolSet (symbols : List String) : List String :=
  (Keyed.ofList (symbols.map fun s => (s, ()))).map (·.1)

structure Directory where
  groups : List (String × List String)
  deriving Repr

namespace Directory

def canonicalMembers (members : List String) : List String :=
  (members.filter fun m => !Record.isBlankText m).map Record.canonicalSymbol

def add (d : Directory) (group : String) (members : List String) : Directory :=
  let key := indexKey group
  let known := (d.groups.lookup key).getD []
  ⟨Keyed.insert key (known ++ canonicalMembers members) d.groups⟩

def ofTable (t : MembershipTable) : Directory :=
  t.groups.foldl (fun d g => d.add g.1 g.2) ⟨[]⟩

def isEmpty (d : Directory) : Bool := d.groups.isEmpty

def members? (d : Directory) (group : String) : Option (List String) :=
  (d.groups.lookup (indexKey group)).map symbolSet

def union (d : Directory) (groups : List String) : List String :=
  symbolSet (groups.flatMap fun group => (d.members? group).getD [])

end Directory

end Screening
