import LearnExport.Access.Permissions
import LearnExport.Error

/-!
# Who may read what

A caller is known by an API token. Any known caller may see the index and the
link to the archive; the records of an entity may be read by callers with its
view permission and by superusers.
-/

namespace LearnExport

/-- The owner of an API token. -/
structure Principal where
  username : String
  isSuperuser : Bool
  permissions : Permissions
deriving DecidableEq

/-- Whether a caller has a permission; superusers have all. -/
def Principal.hasPermission (principal : Principal) (codename : String) : Bool :=
  principal.isSuperuser || principal.permissions.contains codename

def Principal.mayRead (principal : Principal) (entity : Entity) : Bool :=
  principal.hasPermission entity.viewPermission

/-- What a caller must be allowed to do for an answer. -/
inductive Access where
  /-- To read the records of an entity. -/
  | read (entity : Entity)
  /-- Nothing more than to be known. -/
  | known
deriving DecidableEq, Repr

/-- Whether a caller may do it. -/
def Access.isGranted (access : Access) (principal : Principal) : Bool :=
  match access with
  | read entity => principal.mayRead entity
  | known => true

/-- Lets a caller through who is known and allowed to do what the access is
for. -/
def Access.check (access : Access) : Option Principal → Except ApiError Principal
  | none => .error .unauthenticated
  | some principal =>
      if access.isGranted principal then .ok principal else .error .forbidden

end LearnExport
