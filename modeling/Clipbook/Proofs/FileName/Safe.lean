import Clipbook.Proofs.FileName

/-!
# Clipbook — names that are safe everywhere

A name is safe if every file system takes it: it is not empty and not too long, holds no character
that is refused, has neither points nor blanks at its ends, and is not that of a device.

Making a name of a title cuts off the points at its start and the points and blanks at its end, and
asks for devices before it cuts.  The cuts are made in turn and each once, so that one of them can
bring to light what another one, or the question, was for.  Then the name is not safe: `Slip` lists
the ways in which this happens, and there are no others.

Main results:

* `isReserved_iff` — the names of devices.
* `head?_cut_iff`, `getLast?_cut_iff` — when the cuts leave a point at an end.
* `safe_sanitize_iff` — when the name made of a title is safe.
* `sanitize_eq_self_iff` — the safe names are the ones that are left as they are.
-/

namespace Clipbook.FileName

variable {title name t : Text} {c : Char}

/-! ## Devices -/

/-- The name of a device in any case, alone or with a point and anything behind it. -/
def Reserved (name : Text) : Prop :=
  ∃ device ending, name = device ++ ending ∧ isDevice (device.map Char.toLower) = true ∧
    (ending = [] ∨ ∃ rest, ending = '.' :: rest)

/-- The letters with which the names of devices begin. -/
def initials : List Char := ['c', 'l', 'p', 'a', 'n']

/-- A device is named by at most four characters, with no dot among them. -/
theorem isDevice_cases (h : isDevice t = true) :
    t.length ≤ 4 ∧ '.' ∉ t ∧ ∃ c ∈ initials, ∃ rest, t = c :: rest := by
  -- two shapes end in a digit, and the other names are four words
  have hdigit : ∀ n : Char, n.isDigit = true → '.' ≠ n := by
    rintro n hn rfl
    exact absurd hn (by decide)
  unfold isDevice at h
  split at h
  · next n => exact ⟨Nat.le_refl 4, by simpa using hdigit n h, 'c', by decide, _, rfl⟩
  · next n => exact ⟨Nat.le_refl 4, by simpa using hdigit n h, 'l', by decide, _, rfl⟩
  · have hmem := of_decide_eq_true h
    simp only [List.mem_cons, List.not_mem_nil, or_false] at hmem
    rcases hmem with rfl | rfl | rfl | rfl
    · exact ⟨by decide, by decide, 'c', by decide, _, rfl⟩
    · exact ⟨by decide, by decide, 'p', by decide, _, rfl⟩
    · exact ⟨by decide, by decide, 'a', by decide, _, rfl⟩
    · exact ⟨by decide, by decide, 'n', by decide, _, rfl⟩

/-- **The names of devices** are the ones that are asked for. -/
theorem isReserved_iff : isReserved name = true ↔ Reserved name := by
  constructor
  · intro h
    refine ⟨name.takeWhile (· ≠ '.'), name.dropWhile (· ≠ '.'),
      List.takeWhile_append_dropWhile.symm, h, ?_⟩
    cases hdrop : name.dropWhile (· ≠ '.') with
    | nil => exact .inl rfl
    | cons c rest =>
      have hhead := List.head?_dropWhile_not (fun c => decide (c ≠ '.')) name
      rw [hdrop] at hhead
      exact .inr ⟨rest, by rw [Decidable.of_not_not (of_decide_eq_false hhead)]⟩
  · rintro ⟨device, ending, rfl, hdevice, hending⟩
    -- the name of a device holds no point, so the text before the first point is the device
    have hplain : ∀ c ∈ device, decide (c ≠ '.') = true := by
      intro c hc
      refine decide_eq_true fun hpoint => (isDevice_cases hdevice).2.1 ?_
      exact List.mem_map.mpr ⟨c, hc, by rw [hpoint]; decide⟩
    have hstop : ∀ c, ending.head? = some c → decide (c ≠ '.') = false := by
      intro c hc
      rcases hending with rfl | ⟨rest, rfl⟩
      · cases hc
      · rw [← Option.some.inj hc]
        decide
    rw [isReserved, (Text.span_run hplain hstop).1]
    exact hdevice

/-- No blank is a capital. -/
theorem toLower_of_isBlank (h : Text.isBlank c = true) : c.toLower = c := by
  have hrange := Text.toNat_of_isBlank h
  refine dif_neg ?_
  rintro ⟨hlo, hhi⟩
  change 65 ≤ c.toNat at hlo
  change c.toNat ≤ 90 at hhi
  omega

/-- The name of a device begins with a letter. -/
theorem isReserved_eq_false (h : c = '.' ∨ c = '_' ∨ Text.isBlank c = true) (rest : Text) :
    isReserved (c :: rest) = false := by
  rw [← Bool.not_eq_true]
  intro hreserved
  by_cases hpoint : c = '.'
  · rw [hpoint] at hreserved
    exact Bool.false_ne_true hreserved
  rw [isReserved, List.takeWhile_cons_of_pos (by simpa using hpoint), List.map_cons] at hreserved
  -- the name of a device starts with one of four letters, and this starts with none
  obtain ⟨-, -, d, hd, u, hu⟩ := isDevice_cases hreserved
  obtain ⟨rfl, -⟩ := List.cons.inj hu
  rcases h with rfl | rfl | hblank
  · exact hpoint rfl
  · exact absurd hd (by decide)
  · -- a blank is its own small letter, and not one of the initials
    rw [toLower_of_isBlank hblank] at hd
    have hnot : initials.all (fun d => !Text.isBlank d) = true := by decide
    have hletter := List.all_eq_true.mp hnot c hd
    rw [hblank] at hletter
    cases hletter

/-- What is cut off a long name is no part of the name of a device. -/
theorem isReserved_take (t : Text) : isReserved (t.take maxLength) = isReserved t := by
  rw [isReserved, isReserved, ← List.take_takeWhile]
  by_cases hlength : (t.takeWhile (· ≠ '.')).length ≤ maxLength
  · rw [List.take_of_length_le hlength]
  · -- both are longer than the names of devices
    have hlong : ∀ u : Text, maxLength ≤ u.length → isDevice (u.map Char.toLower) = false := by
      intro u hu
      rw [← Bool.not_eq_true]
      intro hdevice
      have := (isDevice_cases hdevice).1
      rw [List.length_map] at this
      have : maxLength = 245 := rfl
      omega
    rw [hlong _ (Nat.le_of_not_le hlength), hlong]
    rw [List.length_take]
    exact Nat.le_min.mpr ⟨Nat.le_refl _, Nat.le_of_not_le hlength⟩

/-! ## Cuts -/

/-- Points, or none, then blanks, and a point again. -/
def PointBehindBlanks (t : Text) : Prop :=
  ∃ points blanks rest, t = points ++ (blanks ++ '.' :: rest) ∧ (∀ c ∈ points, c = '.') ∧
    blanks ≠ [] ∧ ∀ c ∈ blanks, Text.isBlank c = true

/-- A point that only blanks come behind, with more than points before it. -/
def PointBeforeBlanks (t : Text) : Prop :=
  ∃ front blanks, t = front ++ '.' :: blanks ∧ (∃ c ∈ front, c ≠ '.') ∧
    ∀ c ∈ blanks, Text.isBlank c = true

/-- **When the cuts leave a point at the start.** -/
theorem head?_cut_iff :
    (cut t).head? = some '.' ↔ PointBehindBlanks (Text.trimEnd isTail t) := by
  rw [cut, Text.head?_strip_eq_some_iff]
  constructor
  · rintro ⟨blanks, rest, hleft, hblanks, -⟩
    cases blanks with
    | nil =>
      -- the points at the start are cut off before
      obtain ⟨-, -, -, hpoint⟩ := Text.trimStart_eq_cons_iff.mp hleft
      exact absurd hpoint (by decide)
    | cons b blanks =>
      obtain ⟨points, ht, hpoints, -⟩ := Text.trimStart_eq_cons_iff.mp hleft
      exact ⟨points, b :: blanks, rest, ht, fun c hc => of_decide_eq_true (hpoints c hc),
        List.cons_ne_nil b blanks, hblanks⟩
  · rintro ⟨points, blanks, rest, ht, hpoints, hne, hblanks⟩
    obtain ⟨b, blanks, rfl⟩ := List.exists_cons_of_ne_nil hne
    have hb : b ≠ '.' := by
      rintro rfl
      exact absurd (hblanks '.' (List.mem_cons_self ..)) (by decide)
    refine ⟨b :: blanks, rest, ?_, hblanks, by decide⟩
    exact Text.trimStart_eq_cons_iff.mpr
      ⟨points, ht, fun c hc => decide_eq_true (hpoints c hc), decide_eq_false hb⟩

/-- **When the cuts leave a point at the end.** -/
theorem getLast?_cut_iff :
    (cut t).getLast? = some '.' ↔ PointBeforeBlanks (Text.trimEnd isTail t) := by
  rw [cut, Text.getLast?_strip_eq_some_iff]
  constructor
  · rintro ⟨front, blanks, hleft, hblanks, -⟩
    cases front with
    | nil =>
      obtain ⟨-, -, -, hpoint⟩ := Text.trimStart_eq_cons_iff.mp hleft
      exact absurd hpoint (by decide)
    | cons d front =>
      rw [List.cons_append] at hleft
      obtain ⟨points, ht, -, hd⟩ := Text.trimStart_eq_cons_iff.mp hleft
      refine ⟨points ++ d :: front, blanks, ?_, ⟨d, ?_, of_decide_eq_false hd⟩, hblanks⟩
      · rw [ht, List.append_assoc, List.cons_append]
      · exact List.mem_append_right points (List.mem_cons_self ..)
  · rintro ⟨front, blanks, ht, ⟨d, hd, hpoint⟩, hblanks⟩
    refine ⟨front.dropWhile (· = '.'), blanks, ?_, hblanks, by decide⟩
    -- not all that stands before the point is cut off
    have hleft : front.dropWhile (· = '.') ≠ [] := by
      intro hnil
      have hall := List.takeWhile_append_dropWhile (p := fun c : Char => decide (c = '.')) (l := front)
      rw [hnil, List.append_nil] at hall
      rw [← hall] at hd
      exact hpoint (of_decide_eq_true (List.all_eq_true.mp List.all_takeWhile d hd))
    rw [ht, Text.trimStart, List.dropWhile_append, if_neg (by simpa using hleft)]

theorem trimmed_cut (t : Text) : Text.Trimmed (cut t) :=
  Text.trimmed_strip _

/-- A mark stays where it is. -/
theorem head?_cut_mark (t : Text) : (cut ('_' :: t)).head? = some '_' := by
  rw [cut, Text.trimEnd_cons (by decide), Text.head?_strip_eq_some_iff]
  exact ⟨[], _, Text.trimStart_eq_cons_iff.mpr ⟨[], rfl, nofun, by decide⟩, nofun, by decide⟩

/-- **The cuts leave the name of a device** where they bring it to light. -/
theorem isReserved_cut_marked : isReserved (cut (marked title)) = true ↔
    isReserved (kept title) = false ∧ isReserved (cut (kept title)) = true := by
  rw [marked]
  split
  · next hkept =>
    obtain ⟨rest, hrest⟩ := List.head?_eq_some_iff.mp (head?_cut_mark (kept title))
    rw [hrest, isReserved_eq_false (.inr (.inl rfl)), hkept]
    simp
  · next hkept =>
    rw [Bool.not_eq_true] at hkept
    rw [hkept]
    simp

/-! ## Safe names -/

/-- Names that every file system takes. -/
structure Safe (name : Text) : Prop where
  ne_nil : name ≠ []
  length_le : name.length ≤ maxLength
  allowed : ∀ c ∈ name, isUnsafe c = false
  head : ∀ c, name.head? = some c → c ≠ '.' ∧ Text.isBlank c = false
  last : ∀ c, name.getLast? = some c → c ≠ '.' ∧ Text.isBlank c = false
  unreserved : ¬Reserved name

theorem Safe.trimmed (h : Safe name) : Text.Trimmed name :=
  ⟨fun c hc => (h.head c hc).2, fun c hc => (h.last c hc).2⟩

theorem safe_untitled : Safe untitled := by
  refine ⟨by decide, by decide, fun c => isUnsafe_of_mem_untitled, fun c hc => ?_, fun c hc => ?_, ?_⟩
  · rw [← Option.some.inj hc]
    decide
  · rw [← Option.some.inj hc]
    decide
  · rw [← isReserved_iff]
    decide

/-- The ways in which the name made of a title is not safe. -/
inductive Slip (title : Text) : Prop
  /-- The points at the start are cut off before the blanks behind them. -/
  | start (h : PointBehindBlanks (Text.trimEnd isTail (marked title)))
  /-- The points at the end are cut off before blanks other than spaces. -/
  | stop (h : PointBeforeBlanks (Text.trimEnd isTail (marked title)))
      (hshort : (cut (marked title)).length ≤ maxLength)
  /-- A long name is cut last, wherever that is. -/
  | long (c : Char) (h : maxLength < (cut (marked title)).length)
      (hc : (cut (marked title))[maxLength - 1]? = some c)
      (hend : c = '.' ∨ Text.isBlank c = true)
  /-- Devices are asked for before anything is cut off. -/
  | device (h : isReserved (kept title) = false) (hcut : isReserved (cut (kept title)) = true)

/-- The end of a name that the cuts leave something for. -/
theorem getLast?_take_cut :
    (∃ c, ((cut (marked title)).take maxLength).getLast? = some c ∧
      (c = '.' ∨ Text.isBlank c = true)) ↔
    (PointBeforeBlanks (Text.trimEnd isTail (marked title)) ∧
        (cut (marked title)).length ≤ maxLength) ∨
      ∃ c, maxLength < (cut (marked title)).length ∧
        (cut (marked title))[maxLength - 1]? = some c ∧ (c = '.' ∨ Text.isBlank c = true) := by
  have hlast := (trimmed_cut (marked title)).last
  rw [← getLast?_cut_iff]
  generalize cut (marked title) = left at hlast ⊢
  by_cases hlength : left.length ≤ maxLength
  · -- nothing is cut off, and the blanks at the end are gone
    rw [List.take_of_length_le hlength]
    constructor
    · rintro ⟨c, hc, rfl | hblank⟩
      · exact .inl ⟨hc, hlength⟩
      · rw [hlast c hc] at hblank
        cases hblank
    · rintro (⟨hpoint, -⟩ | ⟨c, hlong, -⟩)
      · exact ⟨'.', hpoint, .inl rfl⟩
      · exact absurd hlength (Nat.not_le_of_lt hlong)
  · have hlong := Nat.lt_of_not_le hlength
    have hplace : maxLength - 1 < left.length := Nat.lt_of_le_of_lt (Nat.sub_le ..) hlong
    -- something is cut off, and the character at the bound is the last one
    have hend : (left.take maxLength).getLast? = left[maxLength - 1]? := by
      rw [List.getLast?_take, if_neg (by decide), List.getElem?_eq_getElem hplace]
      rfl
    rw [hend]
    constructor
    · rintro ⟨c, hc, hbad⟩
      exact .inr ⟨c, hlong, hc, hbad⟩
    · rintro (⟨-, hshort⟩ | ⟨c, -, hc, hbad⟩)
      · exact absurd hshort hlength
      · exact ⟨c, hc, hbad⟩

/-- Nothing slips where the cuts leave nothing. -/
theorem not_slip_of_cut_eq_nil (h : cut (marked title) = []) : ¬Slip title := by
  rintro (hstart | ⟨hstop, -⟩ | ⟨c, hlong, -, -⟩ | ⟨hkept, hcut⟩)
  · rw [← head?_cut_iff, h] at hstart
    cases hstart
  · rw [← getLast?_cut_iff, h] at hstop
    cases hstop
  · rw [h] at hlong
    exact absurd hlong (Nat.not_lt_zero _)
  · have hreserved := isReserved_cut_marked.mpr ⟨hkept, hcut⟩
    rw [h] at hreserved
    exact absurd hreserved (by decide)

/-- Cutting a name to its greatest length leaves the first character where it is. -/
theorem head?_take_cut :
    ((cut (marked title)).take maxLength).head? = (cut (marked title)).head? := by
  rw [List.head?_take, if_neg (by decide)]

/-- Each slip leaves a name that is not safe. -/
theorem Slip.not_safe (h : Slip title) : ¬Safe ((cut (marked title)).take maxLength) := by
  intro hsafe
  have hlast : ¬∃ c, ((cut (marked title)).take maxLength).getLast? = some c ∧
      (c = '.' ∨ Text.isBlank c = true) := by
    rintro ⟨c, hc, hbad⟩
    obtain ⟨hpoint, hblank⟩ := hsafe.last c hc
    exact hbad.elim hpoint (by rw [hblank]; exact Bool.false_ne_true)
  cases h with
  | start h => exact (hsafe.head '.' (head?_take_cut.trans (head?_cut_iff.mpr h))).1 rfl
  | stop h hshort => exact hlast (getLast?_take_cut.mpr (.inl ⟨h, hshort⟩))
  | long c h hc hend => exact hlast (getLast?_take_cut.mpr (.inr ⟨c, h, hc, hend⟩))
  -- a name as short as that of a device is not cut at the bound
  | device h hcut =>
    refine hsafe.unreserved (isReserved_iff.mp ?_)
    rw [isReserved_take]
    exact isReserved_cut_marked.mpr ⟨h, hcut⟩

/-- Where nothing slips and something is left, the name is safe. -/
theorem safe_of_not_slip (hcut : cut (marked title) ≠ []) (h : ¬Slip title) :
    Safe ((cut (marked title)).take maxLength) := by
  have hne : (cut (marked title)).take maxLength ≠ [] := by
    rw [Ne, List.take_eq_nil_iff]
    exact fun hnil => hnil.elim (by decide) hcut
  have hallowed : ∀ c ∈ (cut (marked title)).take maxLength, isUnsafe c = false := fun c hc =>
    isUnsafe_of_mem_marked ((cut_sublist _).subset (List.mem_of_mem_take hc))
  have hhead : ∀ c, ((cut (marked title)).take maxLength).head? = some c →
      c ≠ '.' ∧ Text.isBlank c = false := by
    intro c hc
    rw [head?_take_cut] at hc
    refine ⟨?_, (trimmed_cut _).head c hc⟩
    rintro rfl
    exact h (.start (head?_cut_iff.mp hc))
  have hlast : ∀ c, ((cut (marked title)).take maxLength).getLast? = some c →
      c ≠ '.' ∧ Text.isBlank c = false := by
    intro c hc
    -- a point or a blank at the end is one of two slips
    have hgood : ¬(c = '.' ∨ Text.isBlank c = true) := by
      intro hbad
      rcases getLast?_take_cut.mp ⟨c, hc, hbad⟩ with ⟨hstop, hshort⟩ | ⟨d, hlong, hd, hend⟩
      · exact h (.stop hstop hshort)
      · exact h (.long d hlong hd hend)
    rw [not_or, Bool.not_eq_true] at hgood
    exact hgood
  have hreserved : ¬Reserved ((cut (marked title)).take maxLength) := by
    rw [← isReserved_iff, isReserved_take, isReserved_cut_marked]
    rintro ⟨hkept, hdevice⟩
    exact h (.device hkept hdevice)
  exact ⟨hne, List.length_take_le .., hallowed, hhead, hlast, hreserved⟩

/-! ## Main results -/

/-- **When the name made of a title is safe.**  It is never empty, too long or with a character that
is refused, and never begins with a blank; and it is safe unless the title slips. -/
theorem safe_sanitize_iff (title : Text) :
    (sanitize title ≠ [] ∧ (sanitize title).length ≤ maxLength ∧
      (∀ c ∈ sanitize title, isUnsafe c = false) ∧
      ∀ c, (sanitize title).head? = some c → Text.isBlank c = false) ∧
    (Safe (sanitize title) ↔ ¬Slip title) := by
  have hallowed : ∀ c ∈ sanitize title, isUnsafe c = false := fun c => isUnsafe_of_mem_sanitize
  rcases sanitize_cases title with ⟨hcut, hname⟩ | ⟨hcut, hname⟩
  · rw [hname] at hallowed ⊢
    -- nothing is left of the title, so another name stands in
    have hsafe := safe_untitled
    exact ⟨⟨hsafe.ne_nil, hsafe.length_le, hallowed, hsafe.trimmed.head⟩,
      iff_of_true hsafe (not_slip_of_cut_eq_nil hcut)⟩
  · rw [hname] at hallowed ⊢
    -- something is left of the title, and its first character stays
    have hne : (cut (marked title)).take maxLength ≠ [] := by
      rw [Ne, List.take_eq_nil_iff]
      exact fun hnil => hnil.elim (by decide) hcut
    refine ⟨⟨hne, List.length_take_le .., hallowed, fun c hc => ?_⟩,
      fun hsafe hslip => hslip.not_safe hsafe, safe_of_not_slip hcut⟩
    exact (trimmed_cut _).head c (head?_take_cut.symm.trans hc)

/-- Devices behind a point or before a blank, a point between blanks, blanks that are no spaces
behind points, and a long title: none of these becomes a safe name. -/
theorem not_safe_sanitize :
    sanitize ".con".toList = "con".toList ∧ sanitize "con ".toList = "con".toList ∧
      sanitize " .x".toList = ".x".toList ∧ sanitize "x.\u00a0".toList = "x.".toList ∧
      sanitize " ..\u00a0".toList = "..".toList ∧
      (sanitize (List.replicate 244 'x' ++ " y".toList)).getLast? = some ' ' ∧
      ¬∀ title, Safe (sanitize title) := by
  refine ⟨by decide, by decide, by decide, by decide, by decide, by decide +kernel, fun h => ?_⟩
  have hcon : sanitize ".con".toList = "con".toList := by decide
  refine (h ".con".toList).unreserved ⟨"con".toList, [], ?_, by decide, .inl rfl⟩
  rw [hcon, List.append_nil]

/-! ## Names that are left alone -/

/-- What is cut from the end is a dot or a blank. -/
theorem isTail_cases (h : isTail c = true) : c = '.' ∨ Text.isBlank c = true := by
  rw [isTail, decide_eq_true_eq] at h
  simp only [List.mem_cons, List.not_mem_nil, or_false] at h
  rcases h with rfl | rfl | rfl | rfl
  · exact .inl rfl
  · exact .inr (by decide)
  · exact .inr (by decide)
  · exact .inr (by decide)

/-- The cuts leave a text alone that has neither points nor blanks at its ends, and no other. -/
theorem cut_eq_self_iff : cut t = t ↔
    (∀ c, t.head? = some c → c ≠ '.' ∧ Text.isBlank c = false) ∧
      ∀ c, t.getLast? = some c → c ≠ '.' ∧ Text.isBlank c = false := by
  constructor
  · intro h
    -- none of the cuts leaves a character out
    have hlength : t.length ≤ (Text.trimStart (· = '.') (Text.trimEnd isTail t)).length :=
      calc t.length = (cut t).length := by rw [h]
        _ ≤ _ := (Text.strip_sublist _).length_le
    have hend : Text.trimEnd isTail t = t :=
      (Text.trimEnd_sublist isTail t).eq_of_length_le
        (Nat.le_trans hlength (Text.trimStart_sublist _ _).length_le)
    have hstart : Text.trimStart (· = '.') t = t := by
      rw [hend] at hlength
      exact (Text.trimStart_sublist _ t).eq_of_length_le hlength
    have htrimmed : Text.Trimmed t := h ▸ trimmed_cut t
    refine ⟨fun c hc => ⟨?_, htrimmed.head c hc⟩, fun c hc => ⟨?_, htrimmed.last c hc⟩⟩
    · obtain ⟨rest, rfl⟩ := List.head?_eq_some_iff.mp hc
      obtain ⟨-, -, -, hpoint⟩ := Text.trimStart_eq_cons_iff.mp hstart
      exact of_decide_eq_false hpoint
    · obtain ⟨front, rfl⟩ := List.getLast?_eq_some_iff.mp hc
      obtain ⟨-, -, -, htail⟩ := Text.trimEnd_eq_concat_iff.mp hend
      rintro rfl
      exact absurd htail (by decide)
  · rintro ⟨hhead, hlast⟩
    have htail : ∀ c, t.getLast? = some c → isTail c = false := by
      intro c hc
      obtain ⟨hpoint, hblank⟩ := hlast c hc
      rw [← Bool.not_eq_true]
      exact fun htail => (isTail_cases htail).elim hpoint (by rw [hblank]; exact Bool.false_ne_true)
    rw [cut, Text.trimEnd_eq_self htail,
      Text.trimStart_eq_self fun c hc => decide_eq_false (hhead c hc).1]
    exact Text.strip_eq_self ⟨fun c hc => (hhead c hc).2, fun c hc => (hlast c hc).2⟩

/-- Nothing is dropped from a name in which all is allowed. -/
theorem kept_of_allowed (h : ∀ c ∈ name, isUnsafe c = false) : kept name = name :=
  List.filter_eq_self.mpr fun c hc => by rw [h c hc]; rfl

/-- **The safe names are the ones that are left as they are.** -/
theorem sanitize_eq_self_iff : sanitize name = name ↔ Safe name := by
  constructor
  · intro h
    rcases sanitize_cases name with ⟨-, hname⟩ | ⟨hcut, hname⟩
    · rw [← h, hname]
      exact safe_untitled
    · rw [h] at hname
      have hallowed : ∀ c ∈ name, isUnsafe c = false := by
        rw [← h]
        exact fun c => isUnsafe_of_mem_sanitize
      have hlength : name.length ≤ maxLength := by
        rw [hname]
        exact List.length_take_le ..
      -- a name that gets a mark does not begin with one
      have hreserved : ¬isReserved name = true := by
        intro hreserved
        have hmarked : marked name = '_' :: name := by
          rw [marked, kept_of_allowed hallowed, if_pos hreserved]
        have hhead : name.head? = some '_' := by
          rw [hname, head?_take_cut, hmarked, head?_cut_mark]
        obtain ⟨rest, rfl⟩ := List.head?_eq_some_iff.mp hhead
        rw [isReserved_eq_false (.inr (.inl rfl))] at hreserved
        cases hreserved
      have hmarked : marked name = name := by
        rw [marked, kept_of_allowed hallowed, if_neg hreserved]
      rw [hmarked] at hname hcut
      have hself : cut name = name := by
        refine (cut_sublist name).eq_of_length_le ?_
        calc name.length = ((cut name).take maxLength).length := congrArg List.length hname
          _ ≤ (cut name).length := List.length_take_le' ..
      obtain ⟨hhead, hlast⟩ := cut_eq_self_iff.mp hself
      exact ⟨hself ▸ hcut, hlength, hallowed, hhead, hlast, mt isReserved_iff.mpr hreserved⟩
  · intro h
    have hmarked : marked name = name := by
      rw [marked, kept_of_allowed h.allowed, if_neg (mt isReserved_iff.mp h.unreserved)]
    have hcut : cut (marked name) = name := by
      rw [hmarked]
      exact cut_eq_self_iff.mpr ⟨h.head, h.last⟩
    rcases sanitize_cases name with ⟨hnil, -⟩ | ⟨-, hname⟩
    · exact absurd (hcut.symm.trans hnil) h.ne_nil
    · rw [hname, hcut, List.take_of_length_le h.length_le]

end Clipbook.FileName
