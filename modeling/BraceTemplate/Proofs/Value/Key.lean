import BraceTemplate.Proofs.Entries
import BraceTemplate.Value.Key

/-!
# Texts as keys

A text is a key of its own: no other value is the same key.
-/

namespace BraceTemplate.Value

/-- As a key, a text is the same as itself only. -/
theorem alone_text (t : Text) : Entries.Alone sameKey (.text t) where
  same_left := by
    intro other
    cases other with
    | text u => simpa [sameKey] using eq_comm
    | _ => simp [sameKey, numericKey?]
  same_right := by
    intro other
    cases other with
    | text u => simp [sameKey]
    | _ => simp [sameKey, numericKey?]

end BraceTemplate.Value
