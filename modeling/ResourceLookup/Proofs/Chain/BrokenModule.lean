import ResourceLookup.Proofs.Chain.Absence
import ResourceLookup.Proofs.Modules.Rollback

/-!
# Modules that are found and fail

The import system passes on the fault of a body that it runs, be it of the module asked for or of
one of its parents. A class lookup makes a link fault of it, which ends the chain. Only a fault of
the kind that says that a module is missing, and that is about the module asked for or one of its
parents, passes for an absence, wherever it was raised: that is how the import system itself says
that it has found no module. The chain then goes on.
-/

namespace ResourceLookup

namespace Import

variable {around : Surroundings} {depth left : Nat} {name : Text} {path : List Text}
variable {s s' u u' : ModuleSpace} {m : Module} {code : Code} {f : Fault}

/-! ## Bodies that the import system runs -/

end Import

namespace Along

open Import

variable {c : Along Resolver} {w v : World} {name : Text} {r : Resolver}
variable {before after : List Resolver} {left : Nat} {m : Module} {code : Code}
variable {u u' : ModuleSpace} {f : Fault}

def bySearchPath : Along Resolver := ⟨⟨some .searchPath, none⟩, none⟩

end Along
end ResourceLookup
