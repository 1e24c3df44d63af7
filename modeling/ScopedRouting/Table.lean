import ScopedRouting.Template.Compile

/-!
# Routing tables

A table holds routes with what handles them, in the order of their declaration. The first route
that matches is the one that counts, so a later declaration never replaces an earlier one.
-/
namespace ScopedRouting

structure Entry (η : Type) where
  route : Route
  handler : η

structure Table (η : Type) where
  entries : List (Entry η)

namespace Table

variable {η : Type}

/-- Compiles declared templates. The first one at fault fails the table. -/
def build (dialect : Template.Dialect) (declarations : List (String × η)) :
    Except Template.Error (Table η) :=
  (declarations.mapM fun declaration =>
    (dialect.compile declaration.1).map fun route =>
      (⟨route, declaration.2⟩ : Entry η)).map Table.mk

def templates (table : Table η) : List String :=
  table.entries.map (·.route.template)

/-- The first entry whose route matches, and its place. -/
def find? (table : Table η) (cursor : Cursor) : Option (Entry η × Nat) :=
  table.entries.zipIdx.find? (·.1.route.accepts cursor)

/-- The first entry that was declared with exactly this template, and its place. -/
def byTemplate? (table : Table η) (template : String) : Option (Entry η × Nat) :=
  table.entries.zipIdx.find? (·.1.route.template = template)

end Table

end ScopedRouting
