import SharedPages.ObjectName
import SharedPages.Gateway.Program

/-!
# Gateways and their layers

A gateway answers calls from a state. A layer turns a gateway into another one:
`checkingNames` refuses names that cannot be passed on as zero-terminated bytes, and
brings object names into their normal form before the kernel sees them.
-/

namespace SharedPages

/-- Something that answers calls from a state. -/
abbrev Gateway (ω : Type) : Type := (c : Call) → ω → c.Answer × ω

namespace Gateway

variable {ω : Type}

/-- Names are checked and normalised in front of the kernel. -/
def checkingNames (kernel : Gateway ω) : Gateway ω
  | .shmOpen name flags mode, w =>
    match ObjectName.normalize name with
    | .ok name => kernel (.shmOpen name flags mode) w
    | .error e => (.fail e, w)
  | .shmUnlink name, w =>
    match ObjectName.normalize name with
    | .ok name => kernel (.shmUnlink name) w
    | .error e => (.fail e, w)
  | .memfdCreate name flags, w =>
    if name.toList.contains (Char.ofNat 0) then (.fail .einval, w)
    else kernel (.memfdCreate name flags) w
  | c, w => kernel c w

end Gateway

end SharedPages
