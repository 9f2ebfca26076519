import Clipbook.Proofs.Markdown.Links
import Clipbook.Proofs.Markdown.Numbers

/-!
# Clipbook — markup that can be written as Markdown

A fragment goes through several hands: it is read, its scripts are dropped and its links resolved,
it is written as markup, and an engine makes Markdown of that.  Each of them can stop at a detail
of the fragment.  What the engine is given is not the fragment itself: a marked section that was no
comment comes back as an instruction that ends at the first `>`, so that what stood inside of it is
read as markup for the first time.

Main results:

* `exists_ofMarkup_iff` — the fragments that can be written as Markdown, with any engine.
-/

namespace Clipbook.Markdown

open Markup

variable {e : Engines} {base t : Text}

/-- Nothing in a fragment keeps it from being written as Markdown: it is read, its links name hosts
that may be named, and an engine makes Markdown of it, written with its links resolved. -/
def Convertible (e : Engines) (base t : Text) : Prop :=
  ∃ ns, readFragmentBy e.closing t = .ok ns ∧ Linked (withoutScripts ns) ∧
    ∃ ms, resolveBoth base (withoutScripts ns) = .ok ms ∧
      ∃ u, e.markdown (print .escaped ms) = .ok u

/-- The hands a fragment goes through, in their order. -/
theorem ofMarkup_eq (e : Engines) (base t : Text) :
    ofMarkup e base t = readFragmentBy e.closing t >>= fun ns =>
      resolveBoth base (withoutScripts ns) >>= fun ms =>
        (e.markdown (print .escaped ms)).map fun u => Text.strip (limitLineEnds 0 u) := by
  unfold ofMarkup resolveBoth
  cases readFragmentBy e.closing t with
  | error f => rfl
  | ok ns =>
    simp only [Except.ok_bind, bind_assoc]
    rfl

/-- **Markup is written as Markdown** on a page with a domain unless a detail of it is in the
way. -/
theorem exists_ofMarkup_iff {d : Text} (h : Url.domain base = .ok d) (e : Engines) (t : Text) :
    (∃ u, ofMarkup e base t = .ok u) ↔ Convertible e base t := by
  rw [ofMarkup_eq]
  constructor
  · rintro ⟨u, hu⟩
    obtain ⟨ns, hns, hu⟩ := Except.bind_eq_ok_iff.mp hu
    obtain ⟨ms, hms, hu⟩ := Except.bind_eq_ok_iff.mp hu
    have hlinked := (exists_resolveBoth_iff h _).mp ⟨ms, hms⟩
    exact ⟨ns, hns, hlinked, ms, hms, Except.exists_map_eq_ok_iff.mp ⟨u, hu⟩⟩
  · rintro ⟨ns, hns, -, ms, hms, hconverted⟩
    rw [hns, Except.ok_bind, hms, Except.ok_bind]
    exact Except.exists_map_eq_ok_iff.mpr hconverted

end Clipbook.Markdown
