import Statechart.Record.Basic

/-!
Walks over the tree of a record. `preorder` is the order in which the records
are written: each before everything below it, roles in the order of their
names. `descendants` finds the same order with a stack of records still to be
visited.
-/

namespace Statechart.Record

mutual
def preorder : Record → List Record
  | ⟨id, kind, attributes, children, refs, location⟩ =>
      ⟨id, kind, attributes, children, refs, location⟩ :: preorderOfRoles children

def preorderOfRoles : List (String × Child Record) → List Record
  | [] => []
  | (_, .one record) :: roles => record.preorder ++ preorderOfRoles roles
  | (_, .many records) :: roles => preorderOfAll records ++ preorderOfRoles roles

def preorderOfAll : List Record → List Record
  | [] => []
  | record :: records => record.preorder ++ preorderOfAll records
end

/-! The number of records in a tree bounds the visits of the walk. -/

mutual
def size : Record → Nat
  | ⟨_, _, _, children, _, _⟩ => sizeOfRoles children + 1

def sizeOfRoles : List (String × Child Record) → Nat
  | [] => 0
  | (_, .one record) :: roles => record.size + sizeOfRoles roles
  | (_, .many records) :: roles => sizeOfAll records + sizeOfRoles roles

def sizeOfAll : List Record → Nat
  | [] => 0
  | record :: records => record.size + sizeOfAll records
end

/-! The children of a visited record are pushed last role first, and under a
role last record first, so that the first of them is on top. -/

def push (stack : List Record) (record : Record) : List Record :=
  record :: stack

def pushChildren (record : Record) (stack : List Record) : List Record :=
  record.children.reverse.foldl
    (fun stack entry => entry.2.toList.reverse.foldl push stack) stack

def walk : Nat → List Record → List Record
  | 0, _ => []
  | _ + 1, [] => []
  | visits + 1, record :: stack => record :: walk visits (record.pushChildren stack)

/-- All records of the tree, the record itself first. -/
def descendants (record : Record) : List Record :=
  walk record.size [record]

end Statechart.Record
