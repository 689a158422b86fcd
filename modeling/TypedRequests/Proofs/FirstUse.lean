/-!
# Order of first use

Names are listed once each, in the order in which they are first used: tags, imports, types.

* `FirstUses` : a list holds what occurs in a sequence, each value once, by first occurrence.
* `FirstUses.append_old`, `FirstUses.append_new` : what a further occurrence does.
* `firstUses_eraseDups` : the list without repetitions is such a list.
* `eraseDups_filter`, `eraseDups_flatMap_eraseDups` : repetitions may be left out early.
* `LastValues` : a list holds the last value of each key, by first occurrence of the key.
* `LastValues.append_new`, `LastValues.append_old` : what a further value does.
-/

set_option autoImplicit false

namespace TypedRequests

variable {α : Type} [BEq α]

/-- `ys` holds what occurs in `xs`, each value once, in the order of first occurrence. -/
structure FirstUses (xs ys : List α) : Prop where
  mem : ∀ a, a ∈ ys ↔ a ∈ xs
  order : ys.Pairwise fun a b => xs.idxOf a < xs.idxOf b

namespace FirstUses

variable {xs ys : List α} {a : α}

theorem nil : FirstUses ([] : List α) [] :=
  ⟨fun _ => Iff.rfl, List.Pairwise.nil⟩

theorem nodup (h : FirstUses xs ys) : ys.Nodup :=
  h.order.imp fun hlt e => by rw [e] at hlt; exact Nat.lt_irrefl _ hlt

/-- A part of the list keeps the order. -/
theorem order_sublist (h : FirstUses xs ys) {zs : List α} (hs : zs.Sublist ys) :
    zs.Pairwise fun a b => xs.idxOf a < xs.idxOf b :=
  h.order.sublist hs

variable [LawfulBEq α]

/-- More at the end of the sequence does not move what has occurred. -/
theorem order_append (h : FirstUses xs ys) (zs : List α) :
    ys.Pairwise fun a b => (xs ++ zs).idxOf a < (xs ++ zs).idxOf b := by
  refine h.order.imp_of_mem fun {a b} ha hb hlt => ?_
  rw [List.idxOf_append, List.idxOf_append, if_pos ((h.mem a).1 ha), if_pos ((h.mem b).1 hb)]
  exact hlt

/-- A value that has occurred before changes nothing. -/
theorem append_old (h : FirstUses xs ys) (ha : a ∈ xs) : FirstUses (xs ++ [a]) ys := by
  refine ⟨fun b => ?_, h.order_append [a]⟩
  rw [h.mem b, List.mem_append, List.mem_singleton]
  exact ⟨Or.inl, fun hb => hb.elim id fun e => e ▸ ha⟩

/-- A value that has not occurred before comes at the end. -/
theorem append_new (h : FirstUses xs ys) (ha : a ∉ xs) : FirstUses (xs ++ [a]) (ys ++ [a]) := by
  refine ⟨fun b => ?_, ?_⟩
  · rw [List.mem_append, List.mem_append, h.mem b]
  · rw [List.pairwise_append]
    refine ⟨h.order_append [a], List.pairwise_singleton _ _, fun b hb c hc => ?_⟩
    obtain rfl := List.mem_singleton.1 hc
    have hb' : b ∈ xs := (h.mem b).1 hb
    rw [List.idxOf_append, List.idxOf_append, if_pos hb', if_neg ha]
    have := List.idxOf_lt_length_of_mem hb'
    omega

end FirstUses

variable [LawfulBEq α]

/-- **Without its repetitions a sequence is the list of its first uses.** -/
theorem firstUses_eraseDups (xs : List α) : FirstUses xs xs.eraseDups := by
  suffices ∀ (zs xs : List α), FirstUses xs xs.eraseDups →
      FirstUses (xs ++ zs) (xs ++ zs).eraseDups from this xs [] FirstUses.nil
  intro zs
  induction zs with
  | nil => intro xs h; rwa [List.append_nil]
  | cons a zs ih =>
    intro xs h
    rw [List.append_cons]
    apply ih
    rw [List.eraseDups_append]
    by_cases ha : a ∈ xs
    · have hr : [a].removeAll xs = [] := by simp [List.removeAll, ha]
      rw [hr, List.eraseDups_nil, List.append_nil]
      exact h.append_old ha
    · have hr : [a].removeAll xs = [a] := by simp [List.removeAll, ha]
      rw [hr]
      exact h.append_new ha

/-! ## Repetitions left out early -/

/-- What is filtered out may go before or after the repetitions. -/
theorem eraseDups_filter (p : α → Bool) (xs : List α) :
    (xs.filter p).eraseDups = xs.eraseDups.filter p := by
  -- the tail of a list without repetitions is that of a filtered list, which is no tail of it
  suffices ∀ n, ∀ xs : List α, xs.length ≤ n → (xs.filter p).eraseDups = xs.eraseDups.filter p from
    this xs.length xs (Nat.le_refl _)
  intro n
  induction n with
  | zero =>
    intro xs h
    rw [List.length_eq_zero_iff.1 (Nat.le_zero.1 h)]
    rfl
  | succ n ih =>
    intro xs h
    cases xs with
    | nil => rfl
    | cons a xs =>
      have hlen : (xs.filter fun b => !b == a).length ≤ n :=
        Nat.le_trans (List.length_filter_le _ _) (Nat.le_of_succ_le_succ h)
      by_cases ha : p a = true
      · rw [List.filter_cons_of_pos ha, List.eraseDups_cons, List.eraseDups_cons,
          List.filter_cons_of_pos ha, ← ih _ hlen, List.filter_filter, List.filter_filter]
        simp only [Bool.and_comm]
      · rw [List.filter_cons_of_neg ha, List.eraseDups_cons, List.filter_cons_of_neg ha,
          ← ih _ hlen, List.filter_filter]
        congr 1
        apply List.filter_congr
        intro b _
        by_cases hb : b = a
        · simp [hb, ha]
        · simp [hb]

theorem eraseDups_of_nodup {xs : List α} (h : xs.Nodup) : xs.eraseDups = xs := by
  induction xs with
  | nil => rfl
  | cons a xs ih =>
    obtain ⟨ha, hxs⟩ := List.nodup_cons.1 h
    rw [List.eraseDups_cons, List.filter_eq_self.2, ih hxs]
    intro b hb
    have hne : b ≠ a := fun e => ha (e ▸ hb)
    simp [hne]

theorem eraseDups_eraseDups_append (xs ys : List α) :
    (xs.eraseDups ++ ys).eraseDups = (xs ++ ys).eraseDups := by
  rw [List.eraseDups_append, List.eraseDups_append,
    eraseDups_of_nodup (firstUses_eraseDups xs).nodup]
  congr 2
  apply List.filter_congr
  intro b _
  simp [List.mem_eraseDups]

theorem eraseDups_append_eraseDups (xs ys : List α) :
    (xs ++ ys.eraseDups).eraseDups = (xs ++ ys).eraseDups := by
  rw [List.eraseDups_append, List.eraseDups_append, List.removeAll, List.removeAll,
    eraseDups_filter, eraseDups_filter, eraseDups_of_nodup (firstUses_eraseDups ys).nodup]

/-- **Repetitions in the pieces of a sequence may be left out early.** -/
theorem eraseDups_flatMap_eraseDups {β : Type} (g : β → List α) (bs : List β) :
    (bs.flatMap fun b => (g b).eraseDups).eraseDups = (bs.flatMap g).eraseDups := by
  induction bs with
  | nil => rfl
  | cons b bs ih =>
    rw [List.flatMap_cons, List.flatMap_cons, eraseDups_eraseDups_append,
      ← eraseDups_append_eraseDups, ih, eraseDups_append_eraseDups]

/-! ## Last values -/

/-- `ys` holds of the values in `xs` with the same key the last one, in the order in which the keys
first occur. -/
structure LastValues {β : Type} (key : β → α) (xs ys : List β) : Prop where
  keys : FirstUses (xs.map key) (ys.map key)
  last : ∀ y ∈ ys, ∃ before after, xs = before ++ y :: after ∧ key y ∉ after.map key

namespace LastValues

variable {β : Type} {key : β → α} {xs ys before after : List β} {x y : β}

omit [LawfulBEq α] in
theorem nil : LastValues key [] [] :=
  ⟨.nil, nofun⟩

omit [LawfulBEq α] in
theorem nodup (h : LastValues key xs ys) : (ys.map key).Nodup :=
  h.keys.nodup

omit [LawfulBEq α] in
/-- A last value stays one if others follow it. -/
theorem last_append (h : LastValues key xs ys) (hy : y ∈ ys) (hne : key y ≠ key x) :
    ∃ before after, xs ++ [x] = before ++ y :: after ∧ key y ∉ after.map key := by
  obtain ⟨before, after, rfl, hafter⟩ := h.last y hy
  refine ⟨before, after ++ [x], by simp, fun hmem => ?_⟩
  rw [List.map_append, List.mem_append] at hmem
  exact hmem.elim hafter fun h => hne (List.mem_singleton.1 h)

/-- A value with a new key comes at the end. -/
theorem append_new (h : LastValues key xs ys) (hx : key x ∉ ys.map key) :
    LastValues key (xs ++ [x]) (ys ++ [x]) := by
  have hnew : key x ∉ xs.map key := mt (h.keys.mem _).2 hx
  refine ⟨?_, fun y hy => ?_⟩
  · rw [List.map_append, List.map_append]
    exact h.keys.append_new hnew
  · rcases List.mem_append.1 hy with hy | hy
    · exact h.last_append hy fun he => hx (he ▸ List.mem_map_of_mem hy)
    · obtain rfl := List.mem_singleton.1 hy
      exact ⟨xs, [], rfl, by simp⟩

/-- A value with a key that has occurred takes the place of the one before. -/
theorem append_old (h : LastValues key xs (before ++ y :: after)) (hx : key y = key x) :
    LastValues key (xs ++ [x]) (before ++ x :: after) := by
  have hkeys : (before ++ x :: after).map key = (before ++ y :: after).map key := by simp [hx]
  have hy : y ∈ before ++ y :: after := by simp
  have hold : key x ∈ xs.map key := by
    rw [← hx]
    exact (h.keys.mem _).1 (List.mem_map_of_mem hy)
  have hdistinct := h.nodup
  rw [List.map_append, List.map_cons, List.nodup_append, List.nodup_cons, hx] at hdistinct
  obtain ⟨-, ⟨hafter, -⟩, hbefore⟩ := hdistinct
  refine ⟨?_, fun z hz => ?_⟩
  · rw [hkeys, List.map_append]
    exact h.keys.append_old hold
  · rcases List.mem_append.1 hz with hz | hz
    · exact h.last_append (List.mem_append_left _ hz)
        (hbefore _ (List.mem_map_of_mem hz) _ (List.mem_cons_self ..))
    · rcases List.mem_cons.1 hz with rfl | hz
      · exact ⟨xs, [], rfl, by simp⟩
      · exact h.last_append (List.mem_append_right _ (List.mem_cons_of_mem _ hz))
          fun he => hafter (he ▸ List.mem_map_of_mem hz)

end LastValues

end TypedRequests
