import CurlConnect.Basic

/-!
The two directions between a list of form fields and the text of a request body:
`pairs_to_fields_str` and `fields_str_to_map`.

`fields_str_to_map` is a `do ... while` over two iterators. `fieldsLoop fstr b` is
one pass of it with `b` the iterator as an index; the bound `b ≤ fstr.length` is an
argument, so a pass that would advance the iterator past the end cannot be built,
and the recursion is on the distance to the end, so the loop terminates.
-/

namespace CurlConnect

/-- `pairs_to_fields_str`: `key=value&` for every pair, the last `'&'` erased,
returned through `c_str()`. -/
def pairsToFieldsStr (fields : List (List Char × List Char)) : List Char :=
  cStr (fields.map fun f => f.1 ++ '=' :: f.2 ++ ['&']).flatten.dropLast

/-- `find_first_of(b, fstr.cend(), "&")`: the position of the first `'&'` at or
after `b`, or the end. -/
def findAmp (fstr : List Char) (b : Nat) : Nat :=
  b + ((fstr.drop b).takeWhile (· ≠ '&')).length

theorem findAmp_le (fstr : List Char) (b : Nat) (hb : b ≤ fstr.length) :
    findAmp fstr b ≤ fstr.length := by
  have := (List.takeWhile_prefix (fun c => decide (c ≠ '&')) (l := fstr.drop b)).length_le
  simp only [List.length_drop] at this
  unfold findAmp
  omega

/-- The body of the loop for one segment `s = string(b, e)`: nothing for an empty
segment or one without `'='`, else the text before and after its first `'='`. -/
def segmentPair (s : List Char) : Option (List Char × List Char) :=
  let sep := (s.takeWhile (· ≠ '=')).length
  if s.isEmpty then none
  else if sep = s.length then none
  else some (s.take sep, s.drop (sep + 1))

/-- One pass of the loop of `fields_str_to_map` from the iterator `b`. -/
def fieldsLoop (fstr : List Char) (b : Nat) (hb : b ≤ fstr.length) :
    List (List Char × List Char) :=
  (segmentPair ((fstr.take (findAmp fstr b)).drop b)).toList ++
    if he : findAmp fstr b = fstr.length then []
    else fieldsLoop fstr (findAmp fstr b + 1) (by have := findAmp_le fstr b hb; omega)
termination_by fstr.length - b
decreasing_by have := findAmp_le fstr b hb; unfold findAmp at *; omega

def fieldsStrToMap (fstr : List Char) : List (List Char × List Char) :=
  fieldsLoop fstr 0 (Nat.zero_le _)

/-- `fields_str_to_map` as the spec describes it: split at every `'&'`, keep the
segments that are nonempty and hold a `'='`, and cut each at its first `'='`. -/
def fieldsStrToMapSpec (s : List Char) : List (List Char × List Char) :=
  ((s.splitOn '&').filter fun seg => seg ≠ [] ∧ '=' ∈ seg).map
    fun seg => (seg.takeWhile (· ≠ '='), (seg.dropWhile (· ≠ '=')).tail)

section Split

variable (c : Char)

private theorem take_drop_takeWhile (s : List Char) :
    s.take (s.takeWhile (· ≠ c)).length = s.takeWhile (· ≠ c) ∧
      s.drop (s.takeWhile (· ≠ c)).length = s.dropWhile (· ≠ c) := by
  conv => enter [1, 1, 2]; rw [← List.takeWhile_append_dropWhile (· ≠ c) s]
  conv => enter [2, 1, 2]; rw [← List.takeWhile_append_dropWhile (· ≠ c) s]
  exact ⟨List.take_left' rfl, List.drop_left' rfl⟩

private theorem dropWhile_ne_cases (s : List Char) :
    s.dropWhile (· ≠ c) = [] ∨
      s.dropWhile (· ≠ c) = c :: (s.dropWhile (· ≠ c)).tail := by
  induction s with
  | nil => exact .inl rfl
  | cons x s ih =>
      by_cases hx : x = c
      · subst hx; simp
      · simpa [List.dropWhile_cons, hx] using ih

private theorem takeWhile_length_eq_iff (s : List Char) :
    (s.takeWhile (· ≠ c)).length = s.length ↔ c ∉ s := by
  constructor
  · intro h hc
    have hs := (List.takeWhile_prefix (fun x => decide (x ≠ c))).eq_of_length h
    have := List.mem_takeWhile_imp (hs ▸ hc)
    simp at this
  · intro h
    rw [List.takeWhile_eq_self_iff.mpr fun x hx => decide_eq_true (ne_of_mem_of_not_mem hx h)]

end Split

theorem segmentPair_eq (s : List Char) : segmentPair s =
    if s ≠ [] ∧ '=' ∈ s then
      some (s.takeWhile (· ≠ '='), (s.dropWhile (· ≠ '=')).tail)
    else none := by
  obtain ⟨htake, hdrop⟩ := take_drop_takeWhile '=' s
  have hcut : s.drop ((s.takeWhile (· ≠ '=')).length + 1) = (s.dropWhile (· ≠ '=')).tail := by
    rw [← List.tail_drop, hdrop]
  have hlen := takeWhile_length_eq_iff '=' s
  simp only [ne_eq, decide_not] at htake hcut hlen
  by_cases hm : '=' ∈ s <;> cases s <;> simp_all [segmentPair]

private theorem spec_of_split_cons (s t seg : List Char)
    (h : s.splitOn '&' = seg :: t.splitOn '&') :
    fieldsStrToMapSpec s = (segmentPair seg).toList ++ fieldsStrToMapSpec t := by
  rw [fieldsStrToMapSpec, fieldsStrToMapSpec, h, segmentPair_eq, List.filter_cons]
  by_cases hk : seg ≠ [] ∧ '=' ∈ seg <;> simp [hk]

private theorem spec_of_split_single (s seg : List Char) (h : s.splitOn '&' = [seg]) :
    fieldsStrToMapSpec s = (segmentPair seg).toList := by
  rw [fieldsStrToMapSpec, h, segmentPair_eq, List.filter_cons, List.filter_nil]
  by_cases hk : seg ≠ [] ∧ '=' ∈ seg <;> simp [hk]

/-- Each pass of the loop emits the pair of the segment up to the next `'&'` and
then continues after that `'&'`; so the whole loop computes the spec's reading of
the rest of the text. -/
theorem fieldsLoop_eq_spec (fstr : List Char) (b : Nat) (hb : b ≤ fstr.length) :
    fieldsLoop fstr b hb = fieldsStrToMapSpec (fstr.drop b) := by
  induction b, hb using fieldsLoop.induct fstr with
  | case1 b hb ih =>
      rw [fieldsLoop]
      obtain ⟨htake, hdrop⟩ := take_drop_takeWhile '&' (fstr.drop b)
      have hamp : findAmp fstr b = b + ((fstr.drop b).takeWhile (· ≠ '&')).length := rfl
      have hseg : (fstr.take (findAmp fstr b)).drop b = (fstr.drop b).takeWhile (· ≠ '&') := by
        rw [List.drop_take, hamp, Nat.add_sub_cancel_left, htake]
      have hsplit := (List.takeWhile_append_dropWhile (· ≠ '&') (fstr.drop b)).symm
      rw [hseg]
      split_ifs with hend
      · have hlen : ((fstr.drop b).takeWhile (· ≠ '&')).length = (fstr.drop b).length := by
          rw [List.length_drop]; omega
        have hno := (takeWhile_length_eq_iff '&' _).mp hlen
        have hrs := (List.takeWhile_prefix (fun x => decide (x ≠ '&'))).eq_of_length hlen
        rw [List.append_nil, spec_of_split_single _ ((fstr.drop b).takeWhile (· ≠ '&')), hrs]
        rw [hrs]
        exact List.splitOnP_eq_single _ _ fun x hx => by
          simpa using ne_of_mem_of_not_mem hx hno
      · have hrest :
            ((fstr.drop b).dropWhile (· ≠ '&')).tail = fstr.drop (findAmp fstr b + 1) := by
          rw [← hdrop, List.tail_drop, List.drop_drop, hamp]
          congr 1
        rcases dropWhile_ne_cases '&' (fstr.drop b) with hnil | hcons
        · exfalso
          have := congrArg List.length hsplit
          rw [hnil, List.append_nil, List.length_drop] at this
          omega
        · have hsplit' : (fstr.drop b).splitOn '&' =
              (fstr.drop b).takeWhile (· ≠ '&') ::
                (fstr.drop (findAmp fstr b + 1)).splitOn '&' := by
            rw [← hrest]
            conv => lhs; rw [hsplit, hcons]
            refine List.splitOnP_first (· == '&') _ ?_ '&' rfl _
            intro x hx hamp
            have hne := List.mem_takeWhile_imp hx
            exact of_decide_eq_true hne (beq_iff_eq.mp hamp)
          rw [ih hend, spec_of_split_cons _ _ _ hsplit']

/-- `fields_str_to_map` terminates on every text (its loop is a total function of
the iterator, whose bound it carries) and returns the spec's reading of the text. -/
theorem fieldsStrToMap_eq_spec (s : List Char) : fieldsStrToMap s = fieldsStrToMapSpec s :=
  fieldsLoop_eq_spec s 0 (Nat.zero_le _)

example : fieldsStrToMap "a=1&&b&=2&c=3=4&".toList =
    [("a".toList, "1".toList), ("".toList, "2".toList), ("c".toList, "3=4".toList)] := by
  rw [fieldsStrToMap, fieldsLoop_eq_spec]; decide

private theorem flatten_append_dropLast (a : Char) (xs : List (List Char)) :
    (xs.map (· ++ [a])).flatten.dropLast = [a].intercalate xs := by
  induction xs with
  | nil => rfl
  | cons x xs ih =>
      cases xs with
      | nil => simp [List.intercalate]
      | cons y ys =>
          rw [List.map_cons, List.flatten_cons, List.dropLast_append_of_ne_nil _ (by simp), ih]
          simp [List.intercalate]

private theorem cut_at_eq (k v : List Char) (hk : '=' ∉ k) :
    (k ++ '=' :: v).takeWhile (· ≠ '=') = k ∧
      ((k ++ '=' :: v).dropWhile (· ≠ '=')).tail = v := by
  induction k with
  | nil => simp
  | cons c k ih =>
      have hc : decide (c ≠ '=') = true :=
        decide_eq_true fun h => hk (h ▸ List.mem_cons_self _ _)
      obtain ⟨h1, h2⟩ := ih fun h => hk (List.mem_cons_of_mem _ h)
      rw [List.cons_append, @List.takeWhile_cons_of_pos _ (fun x => decide (x ≠ '=')) _ _ hc,
        @List.dropWhile_cons_of_pos _ (fun x => decide (x ≠ '=')) _ _ hc, h1, h2]
      exact ⟨rfl, rfl⟩

/-- Parsing the text `pairs_to_fields_str` builds gives the pairs back, in order and
with duplicates and empty keys or values, when no key holds `'&'`, `'='` or NUL and
no value holds `'&'` or NUL. The text is the pairs joined by `'&'`, and NUL is
excluded because the text leaves the function through `c_str()`. -/
theorem fieldsStrToMap_pairsToFieldsStr (ps : List (List Char × List Char))
    (hps : ∀ p ∈ ps, '&' ∉ p.1 ∧ '=' ∉ p.1 ∧ '\x00' ∉ p.1 ∧ '&' ∉ p.2 ∧ '\x00' ∉ p.2) :
    fieldsStrToMap (pairsToFieldsStr ps) = ps := by
  have hflat : (ps.map fun f => f.1 ++ '=' :: f.2 ++ ['&']).flatten.dropLast =
      ['&'].intercalate (ps.map fun f => f.1 ++ '=' :: f.2) := by
    rw [← flatten_append_dropLast, List.map_map]
    rfl
  have hnul : '\x00' ∉ (ps.map fun f => f.1 ++ '=' :: f.2 ++ ['&']).flatten.dropLast := by
    intro h
    have := (List.dropLast_prefix _).subset h
    simp only [List.mem_flatten, List.mem_map] at this
    obtain ⟨_, ⟨f, hf, rfl⟩, hin⟩ := this
    have := hps f hf
    simp_all
  rw [fieldsStrToMap, fieldsLoop_eq_spec, List.drop_zero, pairsToFieldsStr, cStr_of_nul_free hnul,
    hflat]
  cases ps with
  | nil => rfl
  | cons p ps =>
    rw [fieldsStrToMapSpec, List.splitOn_intercalate, List.filter_eq_self.mpr, List.map_map]
    · conv_rhs => rw [← List.map_id (p :: ps)]
      refine List.map_congr_left fun f hf => ?_
      obtain ⟨h1, h2⟩ := cut_at_eq f.1 f.2 (hps f hf).2.1
      simp only [Function.comp, h1, h2, id]
    · intro l hl
      obtain ⟨f, -, rfl⟩ := List.mem_map.mp hl
      simp
    · intro l hl hamp
      obtain ⟨f, hf, rfl⟩ := List.mem_map.mp hl
      have := hps f hf
      simp_all
    · simp

theorem fieldsStrToMap_pairsToFieldsStr_sample :
    (∀ p ∈ [("a".toList, "1".toList), ("b".toList, "2".toList)],
      '&' ∉ p.1 ∧ '=' ∉ p.1 ∧ '\x00' ∉ p.1 ∧ '&' ∉ p.2 ∧ '\x00' ∉ p.2) ∧
    fieldsStrToMap (pairsToFieldsStr [("a".toList, "1".toList), ("b".toList, "2".toList)]) =
      [("a".toList, "1".toList), ("b".toList, "2".toList)] :=
  ⟨by decide, fieldsStrToMap_pairsToFieldsStr _ (by decide)⟩

/-- A key with a NUL in it meets the round trip's stated premise (no `'&'` or `'='`
in keys, no `'&'` in values) and still does not come back: `c_str()` cuts the text
at the NUL, and what is left has no `'='`. -/
theorem pairsToFieldsStr_cuts_at_nul :
    (∀ p ∈ [("a\x00".toList, "1".toList)], '&' ∉ p.1 ∧ '=' ∉ p.1 ∧ '&' ∉ p.2) ∧
    fieldsStrToMap (pairsToFieldsStr [("a\x00".toList, "1".toList)]) ≠
      [("a\x00".toList, "1".toList)] := by
  refine ⟨by decide, ?_⟩
  rw [fieldsStrToMap, fieldsLoop_eq_spec]
  decide

end CurlConnect
