import TypedClient.Client.Identifier

/-!
# Local bindings

Each argument of a method is bound to a local of its own. A name that is taken
gets underscores in front until it is free, so bindings never clash with each
other or with the names that were taken from the start.
-/

namespace TypedClient.Client

/-- The name with as many underscores in front as it takes to be none of `taken`. A name that has
been tried need not be looked for again, because the names only get longer. -/
def freshen (taken : List String) (name : String) : String :=
  if name ∈ taken then freshen (taken.erase name) ("_" ++ name) else name
termination_by taken.length
decreasing_by
  rename_i h
  have := List.length_erase_of_mem h
  have := List.length_pos_of_mem h
  omega

variable [NameStyle]

/-- The binding for a key that is none of `taken`. -/
def freeBinding (taken : List String) (key : String) : String :=
  freshen taken (bindingName key)

/-- The bindings for keys, none of them in `taken` and each different from those before. -/
def freeBindings (taken : List String) : List String → List String
  | [] => []
  | key :: rest =>
    let binding := freeBinding taken key
    binding :: freeBindings (binding :: taken) rest

end TypedClient.Client
