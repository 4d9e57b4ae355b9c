import Workflow.Definition.Codec

/-!
Values kept by key until they are written over or taken out.
-/
namespace Workflow

structure Cache where
  entries : Dict String Value
deriving DecidableEq, Repr

namespace Cache

def empty : Cache := ⟨∅⟩

instance : EmptyCollection Cache := ⟨empty⟩
instance : Inhabited Cache := ⟨empty⟩

def put (c : Cache) (k : String) (v : Value) : Cache := ⟨c.entries.insert k v⟩

def get? (c : Cache) (k : String) : Option Value := c.entries.get? k

def remove (c : Cache) (k : String) : Cache := ⟨c.entries.erase k⟩

def contains (c : Cache) (k : String) : Bool := c.entries.contains k

def size (c : Cache) : Nat := c.entries.size

/-- The value of a key, if it can be read; one of another shape counts as absent. -/
def read? (c : Cache) (read : Document → Option α) (k : String) : Option α :=
  (c.get? k).bind fun v => read (.ofValue v)

theorem get?_put (c : Cache) (k k' : String) (v : Value) :
    (c.put k v).get? k' = if k' = k then some v else c.get? k' :=
  Dict.get?_insert c.entries k k' v

theorem get?_remove (c : Cache) (k k' : String) :
    (c.remove k).get? k' = if k' = k then none else c.get? k' :=
  Dict.get?_erase c.entries k k'

end Cache

end Workflow
