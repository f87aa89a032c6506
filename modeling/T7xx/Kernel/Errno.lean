import Mathlib.Order.Basic

/-! The error numbers of the kernel that the driver returns, each negated there. -/

namespace T7xxModel

def EIO : Int := 5
def EAGAIN : Int := 11
def ENOMEM : Int := 12
def EACCES : Int := 13
def EFAULT : Int := 14
def EBUSY : Int := 16
def ENODEV : Int := 19
def EINVAL : Int := 22
def ENODATA : Int := 61
def ENOBUFS : Int := 105
def ETIMEDOUT : Int := 110
def EALREADY : Int := 114
def ERESTARTSYS : Int := 512

/-- The callers of `pm_runtime_resume_and_get` give up on every error but `-EACCES`. -/
def ResumeRefused (ret : Int) : Prop := ret < 0 ∧ ret ≠ -EACCES

instance (ret : Int) : Decidable (ResumeRefused ret) := inferInstanceAs (Decidable (_ ∧ _))

/-- The references that `pm_runtime_resume_and_get` takes: none if it returns an error. -/
def resumeAndGetRefs (ret : Int) : Int := if 0 ≤ ret then 1 else 0

theorem resumeAndGetRefs_refused {ret : Int} (refused : ResumeRefused ret) :
    resumeAndGetRefs ret = 0 := by
  obtain ⟨error, -⟩ := refused
  exact if_neg (by omega)

/-- Who goes on has a reference, unless runtime PM is disabled. -/
theorem resumeAndGetRefs_eq_one_iff {ret : Int} (goesOn : ¬ ResumeRefused ret) :
    resumeAndGetRefs ret = 1 ↔ ret ≠ -EACCES := by
  unfold resumeAndGetRefs
  by_cases taken : 0 ≤ ret
  · rw [if_pos taken]
    refine ⟨fun _ denied => ?_, fun _ => rfl⟩
    rw [denied] at taken
    exact absurd taken (by decide)
  · rw [if_neg taken]
    have denied : ret = -EACCES := by
      by_contra other
      exact goesOn ⟨by omega, other⟩
    exact ⟨fun none => absurd none (by decide), fun other => absurd denied other⟩

end T7xxModel
