/-!
# Named values

Values under text names in the order in which the names first came. Setting a name that is there
already replaces its value in place.
-/

namespace Arazzo

abbrev Named (α : Type) := List (String × α)

namespace Named

variable {α : Type}

def find? (named : Named α) (name : String) : Option α :=
  (List.find? (fun p => p.1 == name) named).map Prod.snd

def put (name : String) (value : α) : Named α → Named α
  | [] => [(name, value)]
  | p :: rest => if p.1 = name then (name, value) :: rest else p :: put name value rest

/-- Sets the values of the second list over those of the first. -/
def overlay (named changed : Named α) : Named α :=
  changed.foldl (fun acc p => put p.1 p.2 acc) named

end Named
end Arazzo
