import AiHq.Delivery.Confinement
import AiHq.Delivery.WriteScope

/-!
# What a reviewer is shown

The review diff is made of the texts before and after one call. It has a section for each path of
the call, and nothing changes at any other path while the call runs: a link through which another
file could be written does not pass the check at the end.
-/

namespace AiHq

open Relational FileSystem

namespace IsolatedRepositorySandbox

variable {t t' t'' : FileTree ByteArray} {root q : Path} {change : FileChange}
  {changes : List FileChange} {path : String} {paths : List String}
  {before after : List (String × Option String)}

/-! ### What stays while changes are made -/

/-- Nothing has changed at the place, but that a directory may have been made there. -/
def SameAt (q : Path) (t t' : FileTree ByteArray) : Prop :=
  t'.node? q = t.node? q ∨ t.node? q = none ∧ t'.node? q = some .dir

lemma SameAt.trans (h : SameAt q t t') (h' : SameAt q t' t'') : SameAt q t t'' := by
  obtain heq' | ⟨hnone, hdir⟩ := h'
  · rw [SameAt, heq']
    exact h
  · obtain heq | ⟨-, hdir'⟩ := h
    · exact .inr ⟨heq.symm.trans hnone, hdir⟩
    · rw [hnone] at hdir'
      cases hdir'

variable {self : IsolatedRepositorySandbox} {workspace : RepositoryWorkspace} {workspaceId : Uuid}
  {s s' : Sandbox} {state : WorkspaceState} {candidate : CandidateSnapshot}

end IsolatedRepositorySandbox
end AiHq
