import Clipbook.Proofs.Markup.Tag

/-!
# Clipbook — rounds that read back what is written

A round reads one piece after the other.  What it reads of a piece depends on what follows in one
case only: text goes on to the next tag.  So a piece is said to be read as some tokens before a
certain rest, and pieces are put together from the last one on.

Main results:

* `ReadsAs.append` — two pieces.
* `readsAs_start`, `readsAs_stop`, `readsAs_raw` — tags, and elements whose content is no markup.
* `exists_readsAs_text` — text in which nothing starts a tag or a reference.
-/

namespace Clipbook.Markup.Token

variable {name t u w rest : Text} {as : Table Text} {ks ls : List Token} {c : Char}
  {fuel : Nat}

/-! ## Pieces -/

/-- Tokens put before those of a round. -/
def Round.after (ks : List Token) (r : Round) : Round :=
  { r with tokens := ks ++ r.tokens }

/-- Before some rest a piece is read as these tokens, whatever the fuel is, as long as it is enough
for each character. -/
def ReadsAs (u : Text) (ks : List Token) (rest : Text) : Prop :=
  ∀ fuel, (u ++ rest).length < fuel → ∃ left, rest.length < left ∧
    round false fuel none (u ++ rest) = (round false left none rest).map (Round.after ks)

theorem map_after_nil (r : Except Fault Round) : r.map (Round.after []) = r := by
  cases r with
  | error e => rfl
  | ok r => rfl

/-- Tokens that were read earlier stand before those that were read later. -/
theorem map_after_after (ks ls : List Token) (r : Except Fault Round) :
    (r.map (Round.after ls)).map (Round.after ks) = r.map (Round.after (ks ++ ls)) := by
  cases r with
  | error e => rfl
  | ok r =>
    show Except.ok (Round.after ks (Round.after ls r)) = Except.ok (Round.after (ks ++ ls) r)
    rw [Round.after, Round.after, Round.after, List.append_assoc]

theorem readsAs_nil (rest : Text) : ReadsAs [] [] rest :=
  fun fuel hfuel => ⟨fuel, hfuel, (map_after_nil _).symm⟩

/-- **Two pieces** are read one after the other. -/
theorem ReadsAs.append (hu : ReadsAs u ks (w ++ rest)) (hw : ReadsAs w ls rest) :
    ReadsAs (u ++ w) (ks ++ ls) rest := by
  intro fuel hfuel
  rw [List.append_assoc] at hfuel ⊢
  obtain ⟨left, hleft, hread⟩ := hu fuel hfuel
  obtain ⟨left', hleft', hread'⟩ := hw left hleft
  refine ⟨left', hleft', ?_⟩
  rw [hread, hread', map_after_after]

/-- A piece that is read in one step. -/
theorem readsAs_of_step {k : Token} (hne : u ≠ [])
    (h : ∀ fuel, round false (fuel + 1) none (u ++ rest) =
      (round false fuel none rest).map (Round.cons k)) : ReadsAs u [k] rest := by
  intro fuel hfuel
  obtain ⟨fuel, rfl⟩ := Nat.exists_eq_add_one_of_ne_zero (Nat.ne_of_gt (Nat.zero_lt_of_lt hfuel))
  have hpos := List.length_pos_iff.mpr hne
  rw [List.length_append] at hfuel
  exact ⟨fuel, by omega, h fuel⟩

/-! ## Tags -/

theorem round_of_tag? {k : Token} (h : tag? t = .ok (some (.token k rest))) (fuel : Nat) :
    round false (fuel + 1) none ('<' :: t) =
      (round false fuel (opensRaw? k) rest).map (Round.cons k) := by
  rw [round.eq_def]
  dsimp only
  rw [if_pos rfl, h]

theorem readsAs_start (hname : TagName name) (has : ∀ a ∈ as, Quotable a)
    (hraw : isRaw name = false) (rest : Text) :
    ReadsAs ('<' :: startText name as) [opening name as] rest := by
  refine readsAs_of_step (List.cons_ne_nil _ _) fun fuel => ?_
  rw [List.cons_append, round_of_tag? (tag?_start hname has rest), opening, opensRaw?,
    hraw, if_neg Bool.false_ne_true]

/-- What an end tag is written as. -/
def stopText (name : Text) : Text :=
  '<' :: '/' :: name ++ ['>']

theorem stopText_append (name rest : Text) :
    stopText name ++ rest = '<' :: ('/' :: name ++ '>' :: rest) := by
  simp [stopText]

theorem readsAs_stop (hname : TagName name) (rest : Text) :
    ReadsAs (stopText name) [.stop name] rest := by
  refine readsAs_of_step (List.cons_ne_nil _ _) fun fuel => ?_
  rw [stopText_append, round_of_tag? (tag?_stop hname rest)]
  rfl

/-! ## Raw text -/

/-- What follows a name that ends a tag, if it stands right here. -/
def nameHere? (name body : Text) : Option Text :=
  if (body.take name.length).map Char.toLower = name then
    match (body.drop name.length).dropWhile Text.isBlank with
    | '>' :: rest => some rest
    | _ => none
  else none

/-- What follows the end tag of raw text, if it stands right here. -/
def endHere? (name t : Text) : Option Text :=
  (Text.after? ['<', '/'] t).bind fun r => nameHere? name (r.dropWhile Text.isBlank)

/-- The end of raw text is here or further on. -/
theorem rawEnd?_cons (name : Text) (c : Char) (t : Text) :
    rawEnd? name (c :: t) =
      match endHere? name (c :: t) with
      | some rest => some ([], rest)
      | none => (rawEnd? name t).map fun r => (c :: r.1, r.2) := rfl

theorem endHere?_eq (name t : Text) :
    endHere? name ('<' :: '/' :: t) = nameHere? name (t.dropWhile Text.isBlank) := rfl

/-- A name that begins in a text ends there, since it holds no `<`. -/
theorem nameHere?_append (hname : '<' ∉ name) (u w : Text) (h : nameHere? name u = none) :
    nameHere? name (u ++ '<' :: w) = none := by
  unfold nameHere?
  split
  · next htake =>
    have hlength : name.length ≤ u.length := by
      rw [← Nat.not_lt]
      intro hlt
      refine hname (htake ▸ List.mem_map.mpr ⟨'<', ?_, by decide⟩)
      rw [List.take_append, List.mem_append]
      obtain ⟨k, hk⟩ := Nat.exists_eq_add_one_of_ne_zero (Nat.sub_ne_zero_of_lt hlt)
      rw [hk]
      exact .inr (List.mem_cons_self ..)
    rw [List.take_append_of_le_length hlength] at htake
    rw [List.drop_append_of_le_length hlength, Text.dropWhile_append_cons (by decide)]
    rw [nameHere?, if_pos htake] at h
    -- what stands behind the name in the text stands there still
    split
    · next rest hrest =>
      cases hdrop : (u.drop name.length).dropWhile Text.isBlank with
      | nil =>
        rw [hdrop] at hrest
        exact absurd (List.cons.inj hrest).1 (by decide)
      | cons d r =>
        rw [hdrop] at hrest h
        rw [(List.cons.inj hrest).1] at h
        cases h
    · rfl
  · rfl

/-- An end tag that begins in a text ends there. -/
theorem endHere?_append (hname : '<' ∉ name) (h : endHere? name (c :: t) = none) (w : Text) :
    endHere? name (c :: t ++ '<' :: w) = none := by
  by_cases hc : c = '<'
  · subst hc
    cases t with
    | nil => rfl
    | cons d t =>
      by_cases hd : d = '/'
      · subst hd
        rw [endHere?_eq] at h
        -- there is no bracket in the name, so it does not reach into what is added
        rw [List.cons_append, List.cons_append, endHere?_eq, Text.dropWhile_append_cons (by decide)]
        exact nameHere?_append hname _ w h
      · rw [endHere?, List.cons_append, List.cons_append, Text.after?, if_pos rfl, Text.after?,
          if_neg (Ne.symm hd)]
        rfl
  · rw [endHere?, List.cons_append, Text.after?, if_neg (Ne.symm hc)]
    rfl

/-- The end of raw text is the first one, where the text holds none. -/
theorem rawEnd?_append (hname : '<' ∉ name) (h : rawEnd? name t = none) {w : Text}
    (hend : endHere? name ('<' :: w) = some rest) :
    rawEnd? name (t ++ '<' :: w) = some (t, rest) := by
  induction t with
  | nil => rw [List.nil_append, rawEnd?_cons, hend]
  | cons c t ih =>
    rw [rawEnd?_cons] at h
    rw [List.cons_append, rawEnd?_cons]
    -- an end tag that is found here with the rest would have been found without it
    cases hhere : endHere? name (c :: t) with
    | some r =>
      rw [hhere] at h
      cases h
    | none =>
      rw [hhere] at h
      have hlater := endHere?_append hname hhere w
      rw [List.cons_append] at hlater
      rw [hlater, ih (Option.map_eq_none_iff.mp h)]
      rfl

/-- The end tag that is written is one. -/
theorem endHere?_stopText (hname : TagName name) (hlower : name.map Char.toLower = name)
    (rest : Text) : endHere? name ('<' :: ('/' :: name ++ '>' :: rest)) = some rest := by
  have hhead : (name ++ '>' :: rest).dropWhile Text.isBlank = name ++ '>' :: rest := by
    cases name with
    | nil => rfl
    | cons c u =>
      rw [List.cons_append, List.dropWhile_cons_of_neg]
      rw [(hname.chars c (List.mem_cons_self ..)).2]
      exact Bool.false_ne_true
  rw [List.cons_append, endHere?_eq, hhead, nameHere?, List.take_left, if_pos hlower,
    List.drop_left, List.dropWhile_cons_of_neg (by decide)]
  rfl

/-- The tokens of raw text, which is none if it is empty. -/
def rawTokens (t : Text) : List Token :=
  if t = [] then [] else [.data t]

/-- **An element whose content is no markup** is read up to its end tag. -/
theorem readsAs_raw (hname : TagName name) (has : ∀ a ∈ as, Quotable a) (hraw : isRaw name = true)
    (ht : rawEnd? name t = none) (rest : Text) :
    ReadsAs ('<' :: startText name as ++ (t ++ stopText name))
      (opening name as :: (rawTokens t ++ [.stop name])) rest := by
  have hlower : name.map Char.toLower = name ∧ '<' ∉ name := by
    rw [isRaw, Bool.or_eq_true, decide_eq_true_eq, decide_eq_true_eq] at hraw
    rcases hraw with rfl | rfl <;> decide
  have hend : rawEnd? name (t ++ (stopText name ++ rest)) = some (t, rest) := by
    rw [stopText_append]
    exact rawEnd?_append hlower.2 ht (endHere?_stopText hname hlower.1 rest)
  intro fuel hfuel
  -- one step for the start tag, one for the content and the end tag
  simp only [List.length_append, List.length_cons, startText, stopText, List.length_nil] at hfuel
  obtain ⟨fuel, rfl⟩ : ∃ k, fuel = k + 2 := ⟨fuel - 2, by omega⟩
  refine ⟨fuel, by omega, ?_⟩
  have hstart := round_of_tag? (tag?_start hname has (t ++ (stopText name ++ rest))) (fuel + 1)
  have hopens : opensRaw? (opening name as) = some name := by
    rw [opening, opensRaw?, if_pos hraw]
  have hcontent : round false (fuel + 1) (some name) (t ++ (stopText name ++ rest)) =
      (round false fuel none rest).map (Round.after (rawTokens t ++ [.stop name])) := by
    obtain ⟨c, u, hcons⟩ : ∃ c u, t ++ (stopText name ++ rest) = c :: u :=
      List.exists_cons_of_ne_nil (List.append_ne_nil_of_right_ne_nil _
        (List.append_ne_nil_of_left_ne_nil (List.cons_ne_nil _ _) _))
    rw [hcons] at hend ⊢
    rw [round.eq_def]
    dsimp only
    rw [hend]
    dsimp only
    congr 1
    funext r
    unfold rawTokens
    split
    · rfl
    · rfl
  rw [List.append_assoc, List.append_assoc, List.cons_append, hstart, hopens, hcontent]
  exact map_after_after [_] _ _

/-! ## Texts -/

/-- What may follow a text: the end, or a tag. -/
def Stops (rest : Text) : Prop :=
  rest = [] ∨ ∃ r, rest = '<' :: r

/-- A character that makes a tag of the `<` before it. -/
def opensTag (c : Char) : Bool :=
  isLetter c || c = '/' || c = '!' || c = '?'

/-- What follows an ampersand makes no reference of it: neither a number, nor a name that stands for
something or ends in a semicolon or nowhere. -/
def isNoReference (t : Text) : Bool :=
  match t with
  | [] => false
  | c :: _ =>
    if isLetter c then
      (namedText? (t.takeWhile isEntityChar)).isNone &&
        (t.dropWhile isEntityChar).head?.any (· ≠ ';')
    else c ≠ '#'

/-- Nothing in a text that stands before `rest` starts a tag or a reference. -/
def isInert (rest : Text) : Text → Bool
  | [] => true
  | c :: t =>
    (c ≠ '<' || (t ++ rest).head?.any (!opensTag ·)) && (c ≠ '&' || isNoReference (t ++ rest)) &&
      isInert rest t

/-- Tokens that are text, and what they are the text of. -/
inductive Spells : List Token → Text → Prop
  | nil : Spells [] []
  | data {ks : List Token} {t : Text} (u : Text) (h : Spells ks t) : Spells (.data u :: ks) (u ++ t)
  | named {ks : List Token} {t : Text} {name : Text} (hname : namedText? name = none)
      (h : Spells ks t) : Spells (.named name :: ks) ('&' :: name ++ t)

/-- What means nothing in a text means nothing in the rest of it. -/
theorem isInert_of_suffix (hsuffix : u <:+ t) (h : isInert rest t = true) :
    isInert rest u = true := by
  induction t with
  | nil => rw [List.suffix_nil.mp hsuffix, isInert]
  | cons c t ih =>
    rcases List.suffix_cons_iff.mp hsuffix with rfl | hlater
    · exact h
    · rw [isInert, Bool.and_eq_true] at h
      exact ih hlater h.2

theorem tag?_eq_none (hc : opensTag c = false) (r : Text) : tag? (c :: r) = .ok none := by
  have hno : isLetter c = false ∧ c ≠ '/' ∧ c ≠ '!' ∧ c ≠ '?' := by
    simpa [opensTag, and_assoc] using hc
  unfold tag?
  split
  · next h => exact absurd (List.cons.inj h).1 hno.2.1
  · next h => exact absurd (List.cons.inj h).1 hno.2.2.1
  · next h => exact absurd (List.cons.inj h).1 hno.2.2.2
  · next h => exact absurd (List.cons.inj h).1 hno.2.2.1
  · next h =>
    obtain ⟨rfl, rfl⟩ := List.cons.inj h
    rw [hno.1, if_neg Bool.false_ne_true]
  · next h => cases h

/-- A `<` before a character that does not make a tag of it. -/
theorem readsAs_angle (hc : opensTag c = false) (r : Text) :
    ReadsAs ['<'] [.data ['<']] (c :: r) := by
  refine readsAs_of_step (List.cons_ne_nil _ _) fun fuel => ?_
  show round false (fuel + 1) none ('<' :: c :: r) = _
  rw [round.eq_def]
  dsimp only
  rw [if_pos rfl, tag?_eq_none hc r]
  rfl

/-- The name of a reference starts with a letter. -/
theorem namedReference?_of_not_isLetter (hc : isLetter c = false) (r : Text) :
    namedReference? (c :: r) = none := by
  unfold namedReference?
  dsimp only
  rw [hc, if_neg Bool.false_ne_true]

/-- An ampersand before a character that makes no reference of it. -/
theorem readsAs_ampersand (hc : isLetter c = false) (hsharp : c ≠ '#') (r : Text) :
    ReadsAs ['&'] [.data ['&']] (c :: r) := by
  refine readsAs_of_step (List.cons_ne_nil _ _) fun fuel => ?_
  show round false (fuel + 1) none ('&' :: c :: r) = _
  rw [round.eq_def]
  dsimp only
  rw [if_neg (by decide), if_pos rfl]
  split
  · next h => exact absurd (List.cons.inj h).1 hsharp
  · rw [namedReference?_of_not_isLetter hc r]
    dsimp only
    rw [List.head?_cons, Option.any_some, hc, if_neg Bool.false_ne_true,
      if_neg (List.cons_ne_nil c r)]

/-- An ampersand before a name, which is read as the name it is. -/
theorem readsAs_name {e : Char} (hletter : name.head?.any isLetter = true)
    (hname : ∀ d ∈ name, isEntityChar d = true) (he : isEntityChar e = false) (hsemi : e ≠ ';')
    (r : Text) : ReadsAs ('&' :: name) [.named name] (e :: r) := by
  cases name with
  | nil => cases hletter
  | cons c u =>
    have hc : isLetter c = true := hletter
    obtain ⟨htake, hdrop⟩ := Text.span_run_cons hname he r
    rw [List.cons_append] at htake hdrop
    -- the name ends where its characters do, and no semicolon is read with it
    have hfound : namedReference? (c :: (u ++ e :: r)) = some (c :: u, e :: r) := by
      unfold namedReference?
      dsimp only
      rw [if_pos hc, hdrop]
      split
      · next h => exact absurd (List.cons.inj h).1 hsemi
      · next h =>
        obtain ⟨rfl, rfl⟩ := List.cons.inj h
        rw [htake]
      · next h => cases h
    refine readsAs_of_step (List.cons_ne_nil _ _) fun fuel => ?_
    show round false (fuel + 1) none ('&' :: c :: (u ++ e :: r)) = _
    rw [round.eq_def]
    dsimp only
    rw [if_neg (by decide), if_pos rfl]
    split
    · next h =>
      rw [(List.cons.inj h).1] at hc
      exact absurd hc (by decide)
    · rw [hfound]

/-- Characters that are taken together as text. -/
def isPlain (c : Char) : Bool := c ≠ '<' && c ≠ '&'

/-- A run of characters up to one that is not taken with them, or to the end. -/
theorem readsAs_plain (hc : isPlain c = true) (hu : ∀ d ∈ u, isPlain d = true)
    (hrest : ∀ d, rest.head? = some d → isPlain d = false) :
    ReadsAs (c :: u) [.data (c :: u)] rest := by
  obtain ⟨htake, hdrop⟩ := Text.span_run hu hrest
  rw [isPlain, Bool.and_eq_true, decide_eq_true_eq, decide_eq_true_eq] at hc
  refine readsAs_of_step (List.cons_ne_nil _ _) fun fuel => ?_
  show round false (fuel + 1) none (c :: (u ++ rest)) = _
  rw [round.eq_def]
  dsimp only
  rw [if_neg hc.1, if_neg hc.2]
  show (round false fuel none ((u ++ rest).dropWhile isPlain)).map
    (Round.cons (.data (c :: (u ++ rest).takeWhile isPlain))) = _
  rw [htake, hdrop]

/-- Behind a run of characters comes one that does not belong to it. -/
theorem eq_false_of_head?_dropWhile {p : Char → Bool} (hp : p '<' = false) (hrest : Stops rest)
    (hc : (t.dropWhile p ++ rest).head? = some c) : p c = false := by
  cases hdrop : t.dropWhile p with
  | nil =>
    rw [hdrop, List.nil_append] at hc
    rcases hrest with rfl | ⟨r, rfl⟩
    · cases hc
    · rw [← Option.some.inj hc, hp]
  | cons d u =>
    have hd := List.head?_dropWhile_not p t
    rw [hdrop] at hd hc
    rw [← Option.some.inj hc]
    exact hd

/-- The name behind an ampersand ends in the text or with it. -/
theorem takeWhile_append_of_stops {p : Char → Bool} (hp : p '<' = false) (hrest : Stops rest)
    (t : Text) : (t ++ rest).takeWhile p = t.takeWhile p ∧
      (t ++ rest).dropWhile p = t.dropWhile p ++ rest := by
  rcases hrest with rfl | ⟨r, rfl⟩
  · rw [List.append_nil, List.append_nil]
    exact ⟨rfl, rfl⟩
  · exact ⟨Text.takeWhile_append_cons hp t r, Text.dropWhile_append_cons hp t r⟩

/-- An ampersand that starts no reference is read as itself, alone or with the name behind it. -/
theorem exists_readsAs_reference (h : isNoReference (t ++ rest) = true) (hrest : Stops rest)
    (hlater : ∀ u, u <:+ t → ∃ ks, Spells ks u ∧ ReadsAs u ks rest) :
    ∃ ks, Spells ks ('&' :: t) ∧ ReadsAs ('&' :: t) ks rest := by
  obtain ⟨htake, hdrop⟩ := takeWhile_append_of_stops (p := isEntityChar) (by decide) hrest t
  cases hall : t ++ rest with
  | nil =>
    rw [hall] at h
    cases h
  | cons c r =>
    rw [hall] at h htake hdrop
    by_cases hc : isLetter c = true
    · rw [isNoReference, if_pos hc, htake, hdrop, Bool.and_eq_true, Option.isNone_iff_eq_none] at h
      obtain ⟨hname, hend⟩ := h
      -- something stands behind the name and is no semicolon, so the name is read as it is
      cases hbehind : t.dropWhile isEntityChar ++ rest with
      | nil =>
        rw [hbehind] at hend
        cases hend
      | cons e w =>
        rw [hbehind, List.head?_cons, Option.any_some, decide_eq_true_eq] at hend
        have he : isEntityChar e = false :=
          eq_false_of_head?_dropWhile (by decide) hrest (by rw [hbehind]; rfl)
        have hletter : (t.takeWhile isEntityChar).head?.any isLetter = true := by
          have hentity : isEntityChar c = true := by
            rw [isEntityChar, Char.isAlphanum, show c.isAlpha = true from hc]
            rfl
          rw [← htake, List.takeWhile_cons_of_pos hentity]
          exact hc
        have hfirst := readsAs_name hletter (fun d => List.mem_takeWhile_imp) he hend w
        rw [← hbehind] at hfirst
        obtain ⟨ks, hks, hread⟩ := hlater _ (List.dropWhile_suffix isEntityChar)
        have hspells := Spells.named hname hks
        have hwhole := hfirst.append hread
        rw [List.cons_append, List.takeWhile_append_dropWhile] at hspells hwhole
        exact ⟨_, hspells, hwhole⟩
    · rw [isNoReference, if_neg hc, decide_eq_true_eq] at h
      have hfirst := readsAs_ampersand (Bool.eq_false_iff.mpr hc) h r
      rw [← hall] at hfirst
      obtain ⟨ks, hks, hread⟩ := hlater t List.suffix_rfl
      exact ⟨_, .data ['&'] hks, hfirst.append hread⟩

/-- A `<` that starts no tag is read as itself. -/
theorem exists_readsAs_angle (h : (t ++ rest).head?.any (!opensTag ·) = true)
    (hlater : ∃ ks, Spells ks t ∧ ReadsAs t ks rest) :
    ∃ ks, Spells ks ('<' :: t) ∧ ReadsAs ('<' :: t) ks rest := by
  obtain ⟨ks, hks, hread⟩ := hlater
  cases hall : t ++ rest with
  | nil =>
    rw [hall] at h
    cases h
  | cons d r =>
    rw [hall] at h
    have hd : opensTag d = false := by simpa using h
    have hfirst := readsAs_angle hd r
    rw [← hall] at hfirst
    exact ⟨_, .data ['<'] hks, hfirst.append hread⟩

/-- A run of characters that start nothing is read at once. -/
theorem exists_readsAs_plain (hc : isPlain c = true) (hrest : Stops rest)
    (hlater : ∃ ks, Spells ks (t.dropWhile isPlain) ∧ ReadsAs (t.dropWhile isPlain) ks rest) :
    ∃ ks, Spells ks (c :: t) ∧ ReadsAs (c :: t) ks rest := by
  obtain ⟨ks, hks, hread⟩ := hlater
  have hfirst : ReadsAs (c :: t.takeWhile isPlain) [.data (c :: t.takeWhile isPlain)]
      (t.dropWhile isPlain ++ rest) :=
    readsAs_plain hc (fun d => List.mem_takeWhile_imp) fun d hd =>
      eq_false_of_head?_dropWhile (by decide) hrest hd
  have hsplit : c :: t = (c :: t.takeWhile isPlain) ++ t.dropWhile isPlain := by
    rw [List.cons_append, List.takeWhile_append_dropWhile]
  rw [hsplit]
  exact ⟨_, .data _ hks, hfirst.append hread⟩

/-- **Text that is inert is read as itself**, in one or more pieces. -/
theorem exists_readsAs_text (h : isInert rest t = true) (hrest : Stops rest) :
    ∃ ks, Spells ks t ∧ ReadsAs t ks rest := by
  -- a run of characters is read at once, so the induction is on the length
  obtain ⟨n, hn⟩ : ∃ n, t.length ≤ n := ⟨_, Nat.le_refl _⟩
  induction n generalizing t with
  | zero =>
    rw [List.length_eq_zero_iff.mp (Nat.le_zero.mp hn)]
    exact ⟨[], .nil, readsAs_nil rest⟩
  | succ n ih =>
    cases t with
    | nil => exact ⟨[], .nil, readsAs_nil rest⟩
    | cons c t =>
      rw [isInert, Bool.and_eq_true, Bool.and_eq_true] at h
      obtain ⟨⟨hangle, hamp⟩, ht⟩ := h
      have hlater (u : Text) (hu : u <:+ t) : ∃ ks, Spells ks u ∧ ReadsAs u ks rest :=
        ih (isInert_of_suffix hu ht) (Nat.le_trans hu.length_le (Nat.le_of_succ_le_succ hn))
      by_cases hlt : c = '<'
      · subst hlt
        exact exists_readsAs_angle (by simpa using hangle) (hlater t List.suffix_rfl)
      · by_cases hand : c = '&'
        · subst hand
          exact exists_readsAs_reference (by simpa using hamp) hrest hlater
        · have hc : isPlain c = true := by
            rw [isPlain, Bool.and_eq_true, decide_eq_true_eq, decide_eq_true_eq]
            exact ⟨hlt, hand⟩
          exact exists_readsAs_plain hc hrest (hlater _ (List.dropWhile_suffix isPlain))

end Clipbook.Markup.Token
