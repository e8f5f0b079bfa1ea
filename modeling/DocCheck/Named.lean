set_option autoImplicit false

namespace DocCheck.Named

variable {α : Type}

/-- Puts `value` under `name`, in the place of what was there. The entries stand in the order of their
names, and no name stands twice. -/
def put (name : String) (value : α) : List (String × α) → List (String × α)
  | [] => [(name, value)]
  | (other, old) :: rest =>
    if name < other then (name, value) :: (other, old) :: rest
    else if name = other then (name, value) :: rest
    else (other, old) :: put name value rest

/-- Puts each value in turn, so the last one under a name stays. -/
def ofList (pairs : List (String × α)) : List (String × α) :=
  pairs.foldl (fun entries pair => put pair.1 pair.2 entries) []

end DocCheck.Named
