import TypedClient.Json.Basic

/-!
# Merging a patch into a value

A patch that is an object changes an object member by member: `null` removes the
member, a member that is missing is added at the end as the patch has it, and a
member that is there is merged in its turn. Any other patch replaces the value.
-/

namespace TypedClient.Json

mutual
/-- The value changed by a patch. -/
def merge (base : Json) : Json → Json
  | .object patch =>
    match base with
    | .object members => .object (mergeMembers members patch)
    | _ => .object patch
  | patch => patch
/-- The members changed by those of a patch, one after another. -/
def mergeMembers (members : List (String × Json)) : List (String × Json) → List (String × Json)
  | [] => members
  | (name, value) :: rest =>
    let changed :=
      if value.isNull then erase name members
      else
        match lookup name members with
        | some old => insert name (merge old value) members
        | none => members ++ [(name, value)]
    mergeMembers changed rest
end

end TypedClient.Json
