import CurlConnect.Curl.Headers

/-!
What `_options` and the header lists of a `CurlConnectionImpl_` say about its libcurl
handle, over every run of calls of its interface from construction, whether each call
returns or throws.

* `_options`, which `get_option_strings`, `GET_url`, `GET_timeout` and `operator<<` read,
  holds the text of every option the handle holds and of no other, except that
  `RESET_headers` erases `CURLOPT_HTTPHEADER` from `_options` and leaves it on the handle
  (`options_record_handle`).
* `_header` is null or a list not yet freed, and while `_options` records
  `CURLOPT_HTTPHEADER` the handle's `CURLOPT_HTTPHEADER` is null or such a list
  (`header_lists_never_dangle`). So the handle can point at a freed list only in the state
  `RESET_headers` leaves, which `_options` does not show. A `set_option` of
  `CURLOPT_HTTPHEADER` from outside may point the handle anywhere; those runs have none.
* `close` is final: on what it leaves every call throws "connection/handle has been closed"
  or returns, and changes nothing either way (`close_is_final`).

Each fact is proved once per primitive (`set_option`, `ADD_headers`, the resets, `close`)
and then for every call by `CurlCall.run_keeps`; `runCalls_preserves` carries it along a
run. `ReachedBy` names the states such runs reach from a given one.
-/

namespace CurlConnect

namespace CurlConnectionImpl

variable (env : Env)

theorem runCalls_append (xs ys : List CurlCall) (c : CurlConnectionImpl) :
    runCalls env (xs ++ ys) c = runCalls env ys (runCalls env xs c) := by
  induction xs generalizing c with
  | nil => rfl
  | cons x xs ih => exact ih _

theorem runCalls_preserves {P : CurlConnectionImpl → Prop} {ok : CurlCall → Prop}
    (hstep : ∀ call, ok call → Cpp.Keeps (Cpp.Kept P) (call.run env)) :
    ∀ calls : List CurlCall, (∀ call ∈ calls, ok call) →
      ∀ c, P c → P (runCalls env calls c)
  | [], _, _, hc => hc
  | call :: calls, hcalls, c, hc =>
      runCalls_preserves hstep calls (fun d hd => hcalls d (List.mem_cons_of_mem _ hd)) _
        (hstep call (hcalls call (List.mem_cons_self _ _)) c hc)

/-- `c'` is where a run of calls that `ok` admits takes `c`. -/
def ReachedBy (ok : CurlCall → Prop) (c c' : CurlConnectionImpl) : Prop :=
  ∃ calls : List CurlCall, (∀ call ∈ calls, ok call) ∧ runCalls env calls c = c'

theorem reachedBy_refl (ok : CurlCall → Prop) : Reflexive (ReachedBy env ok) :=
  fun _ => ⟨[], by simp, rfl⟩

theorem reachedBy_trans (ok : CurlCall → Prop) : Transitive (ReachedBy env ok) := by
  rintro c _ _ ⟨xs, hxs, rfl⟩ ⟨ys, hys, rfl⟩
  exact ⟨xs ++ ys, fun d hd => (List.mem_append.mp hd).elim (hxs d) (hys d),
    runCalls_append env xs ys c⟩

theorem reachedBy_call {ok : CurlCall → Prop} {call : CurlCall} (h : ok call) :
    Cpp.Keeps (ReachedBy env ok) (call.run env) :=
  fun _ => ⟨[call], by simpa using h, rfl⟩

theorem newUrl_reachedBy {ok : CurlCall → Prop} {url : List Char} (hurl : ok (.setUrl url))
    {c : CurlConnectionImpl} (h : newUrl env url = .ok c) :
    ∃ c₀, new env = .ok c₀ ∧ ReachedBy env ok c₀ c := by
  unfold newUrl at h
  split at h
  · cases h
  · rename_i c₀ hnew
    split at h
    · rename_i hset
      cases h
      exact ⟨c₀, hnew, (reachedBy_call env hurl).of_ok hset⟩
    · cases h

theorem ReachedBy.preserves {ok : CurlCall → Prop} {P : CurlConnectionImpl → Prop}
    (hstep : ∀ call, ok call → Cpp.Keeps (Cpp.Kept P) (call.run env))
    {c c' : CurlConnectionImpl} (h : ReachedBy env ok c c') (hc : P c) : P c' := by
  obtain ⟨calls, hcalls, rfl⟩ := h
  exact runCalls_preserves env hstep calls hcalls c hc

theorem ReachedBy.mono {ok ok' : CurlCall → Prop} (hok : ∀ call, ok call → ok' call)
    {c c' : CurlConnectionImpl} (h : ReachedBy env ok c c') : ReachedBy env ok' c c' := by
  obtain ⟨calls, hcalls, rfl⟩ := h
  exact ⟨calls, fun call hc => hok call (hcalls call hc), rfl⟩

@[simp] theorem resetHeaders_handle (c : CurlConnectionImpl) : c.resetHeaders.handle = c.handle := by
  simp [resetHeaders]

/-- `_options` holds exactly the text of what the handle holds for `o`. -/
def MirrorAt (o : CURLoption) (c : CurlConnectionImpl) : Prop :=
  c.options o = (c.handle.bind (· o)).map OptVal.toStr

/-- `_options` holds the text of every value the handle holds, but `CURLOPT_HTTPHEADER` after
`RESET_headers`; where the handle holds nothing, `_options` may still hold the text of a
string whose copy libcurl freed when it refused the next one. -/
def OptionsMirror (c : CurlConnectionImpl) : Prop :=
  ∀ o, MirrorAt o c ∨ (o = .httpHeader ∧ c.options o = none) ∨ c.handle.bind (· o) = none

/-- What `set_option(o', v)` leaves for the option `o`: what was there, or the accepted value
in `_options` and on the handle, or (a refused string) the old text and nothing on the
handle. -/
def SetEntry (o o' : CURLoption) (v : OptVal) (c c' : CurlConnectionImpl) : Prop :=
  (c'.options o = c.options o ∧ c'.handle.bind (· o) = c.handle.bind (· o)) ∨
    (o' = o ∧ c'.options o = some v.toStr ∧ c'.handle.bind (· o) = some v) ∨
    (o' = o ∧ v.isStr ∧ c'.options o = c.options o ∧ c'.handle.bind (· o) = none)

theorem setOption_entry (o o' : CURLoption) (v : OptVal) :
    Cpp.Keeps (SetEntry o o' v) (setOption env o' v) := by
  intro c
  unfold setOption
  split
  · exact .inl ⟨rfl, rfl⟩
  · rename_i hh
    by_cases ho : o' = o
    · subst ho
      split
      · exact .inr (.inl ⟨rfl, by simp, by simp⟩)
      · cases hs : v.isStr
        · exact .inl ⟨rfl, by simp [hh, refusedHandle_of_not_str _ _ hs]⟩
        · exact .inr (.inr ⟨rfl, hs, rfl, by simp [refusedHandle, hs]⟩)
    · split
      · exact .inl ⟨by simp [Function.update_noteq (Ne.symm ho)],
          by simp [hh, Function.update_noteq (Ne.symm ho)]⟩
      · exact .inl ⟨rfl, by simp [hh, refusedHandle_of_ne _ _ (Ne.symm ho)]⟩

theorem setOption_mirror (o : CURLoption) (v : OptVal) :
    Cpp.Keeps (Cpp.Kept OptionsMirror) (setOption env o v) := fun c hm o' => by
  rcases setOption_entry env o' o v c with ⟨ho, hh⟩ | ⟨-, ho, hh⟩ | ⟨-, -, -, hh⟩
  · simpa only [MirrorAt, ho, hh] using hm o'
  · exact .inl (by simp [MirrorAt, ho, hh])
  · exact .inr (.inr hh)

theorem appendHeaders_mirror (hs : List (List Char × List Char)) :
    Cpp.Keeps (Cpp.Kept OptionsMirror) (appendHeaders env hs) :=
  (appendHeaders_frame hs).mono fun _ _ h hm o => by unfold MirrorAt; rw [h.1, h.2]; exact hm o

theorem addHeaders_mirror (hs : List (List Char × List Char)) :
    Cpp.Keeps (Cpp.Kept OptionsMirror) (addHeaders env hs) := fun c => by
  unfold addHeaders
  split_ifs
  · exact id
  · exact id
  · exact Cpp.Keeps.bind (Cpp.kept_trans _) (appendHeaders_mirror env hs)
      (fun _ => .bind (Cpp.kept_trans _) (.get (Cpp.kept_refl _)) fun _ =>
        setOption_mirror env _ _) c

theorem resetHeaders_mirror (c : CurlConnectionImpl) : Cpp.Kept OptionsMirror c c.resetHeaders :=
  fun hm o => by
    by_cases ho : o = .httpHeader
    · exact .inr (.inl ⟨ho, by simp [resetHeaders, ho]⟩)
    · simpa [MirrorAt, resetHeaders, Function.update_noteq ho] using hm o

theorem resetOptions_mirrorAt (o : CURLoption) (c : CurlConnectionImpl) : MirrorAt o c.resetOptions := by
  unfold MirrorAt resetOptions; cases c.handle <;> rfl

theorem resetOptions_mirror (c : CurlConnectionImpl) : Cpp.Kept OptionsMirror c c.resetOptions :=
  fun _ o => .inl (resetOptions_mirrorAt o c)

theorem close_mirror (c : CurlConnectionImpl) : Cpp.Kept OptionsMirror c c.close :=
  fun _ _ => .inl rfl

/-- Address `p` is null or the head of a list of the object not yet freed. -/
def Live (c : CurlConnectionImpl) (p : Nat) : Prop := p = 0 ∨ (c.slists p).isSome

/-- The heap facts of the header lists. -/
structure HeapOk (c : CurlConnectionImpl) : Prop where
  header_live : Live c c.header
  /-- While `_options` records `CURLOPT_HTTPHEADER`, the handle's is null or a list not
  yet freed. -/
  recorded_live : (c.options .httpHeader).isSome →
    ∃ p, c.handle.bind (· .httpHeader) = some (.ptr p) ∧ Live c p

theorem HeapOk.of_frame {c c' : CurlConnectionImpl} (hc : HeapOk c)
    (hgrow : ∀ p, (c.slists p).isSome → (c'.slists p).isSome) (hheader : Live c' c'.header)
    (hrec : c'.options .httpHeader = c.options .httpHeader)
    (hbind : c'.handle.bind (· .httpHeader) = c.handle.bind (· .httpHeader)) : HeapOk c' := by
  refine ⟨hheader, fun hs => ?_⟩
  obtain ⟨p, hp, hl⟩ := hc.recorded_live (hrec ▸ hs)
  exact ⟨p, hbind ▸ hp, hl.imp_right (hgrow p)⟩

theorem HeapOk.of_released {c : CurlConnectionImpl} (h0 : c.header = 0)
    (hrec : c.options .httpHeader = none) : HeapOk c :=
  ⟨.inl h0, fun hs => by simp [hrec] at hs⟩

theorem setOption_heapOk {o : CURLoption} (ho : o ≠ .httpHeader) (v : OptVal) :
    Cpp.Keeps (Cpp.Kept HeapOk) (setOption env o v) := fun c hc => by
  obtain ⟨hhead, hsl, -⟩ := setOption_keeps env o v c
  have hlive : Live (Cpp.stateOf (setOption env o v c)) c.header := by
    unfold Live; rw [hsl]; exact hc.header_live
  rcases setOption_entry env .httpHeader o v c with ⟨hr, hb⟩ | ⟨he, -⟩ | ⟨he, -⟩
  · exact hc.of_frame (fun p hp => by rw [hsl]; exact hp) (by rw [hhead]; exact hlive) hr hb
  all_goals exact absurd he ho

theorem setOption_header_heapOk {c : CurlConnectionImpl} (hc : HeapOk c) :
    HeapOk (Cpp.stateOf (setOption env .httpHeader (.ptr c.header) c)) := by
  obtain ⟨hhead, hsl, -⟩ := setOption_keeps env .httpHeader (.ptr c.header) c
  have hlive : Live (Cpp.stateOf (setOption env .httpHeader (.ptr c.header) c)) c.header := by
    unfold Live; rw [hsl]; exact hc.header_live
  rcases setOption_entry env .httpHeader .httpHeader (.ptr c.header) c with
    ⟨hr, hb⟩ | ⟨-, -, hb⟩ | ⟨-, hs, -⟩
  · exact hc.of_frame (fun p hp => by rw [hsl]; exact hp) (by rw [hhead]; exact hlive) hr hb
  · exact ⟨by rw [hhead]; exact hlive, fun _ => ⟨c.header, hb, hlive⟩⟩
  · cases hs

theorem update_grows {s : Nat → Option (List (List Char))} {a : Nat}
    {v : Option (List (List Char))} (hv : (s a).isSome → v.isSome) :
    ∀ p, (s p).isSome → (Function.update s a v p).isSome := by
  intro p hp
  by_cases h : p = a
  · subst h; simpa using hv hp
  · simpa [Function.update_noteq h] using hp

theorem slistAppend_heapOk {c : CurlConnectionImpl} (hc : HeapOk c) (data : List Char) :
    HeapOk { (slistAppend env c c.header data).2 with
      header := (slistAppend env c c.header data).1 } := by
  unfold slistAppend
  split_ifs with halloc h0
  · exact hc.of_frame (update_grows fun _ => rfl) (.inr (by simp)) rfl rfl
  · refine hc.of_frame (update_grows fun h => by simpa using h) ?_ rfl rfl
    obtain h | h := hc.header_live
    · exact absurd h h0
    · exact .inr (by simpa using h)
  · exact hc.of_frame (fun _ => id) (.inl rfl) rfl rfl

theorem appendHeaders_heapOk (hs : List (List Char × List Char)) :
    Cpp.Keeps (Cpp.Kept HeapOk) (appendHeaders env hs) := by
  induction hs with
  | nil => exact .pure (Cpp.kept_refl _) ()
  | cons x hs ih =>
      intro c hc
      have hc' := slistAppend_heapOk env hc (cStr (x.1 ++ ": ".toList ++ x.2))
      simp only [appendHeaders]
      split_ifs
      · exact hc'
      · exact ih _ hc'

theorem addHeaders_heapOk (hs : List (List Char × List Char)) :
    Cpp.Keeps (Cpp.Kept HeapOk) (addHeaders env hs) := fun c => by
  unfold addHeaders
  split_ifs
  · exact id
  · exact id
  · exact Cpp.Keeps.bind (Cpp.kept_trans _) (appendHeaders_heapOk env hs)
      (fun _ c₁ hc₁ => setOption_header_heapOk env hc₁) c

theorem resetHeaders_heapOk (c : CurlConnectionImpl) : Cpp.Kept HeapOk c c.resetHeaders :=
  fun _ => .of_released rfl (by simp [resetHeaders])

theorem resetOptions_heapOk (c : CurlConnectionImpl) : Cpp.Kept HeapOk c c.resetOptions :=
  fun _ => .of_released rfl rfl

theorem close_heapOk (c : CurlConnectionImpl) : Cpp.Kept HeapOk c c.close :=
  fun _ => .of_released rfl rfl

/-- What `close` leaves: no handle, no header list, nothing in `_options`. -/
structure Closed (c : CurlConnectionImpl) : Prop where
  handle : c.handle = none
  header : c.header = 0
  options : c.options = fun _ => none

theorem close_closed (c : CurlConnectionImpl) : Closed c.close := ⟨rfl, rfl, rfl⟩

theorem setOption_closed {c : CurlConnectionImpl} (h : c.handle = none) (o : CURLoption)
    (v : OptVal) : setOption env o v c = .error .handleClosed c := by
  simp only [setOption, h]

theorem Closed.resetHeaders_eq {c : CurlConnectionImpl} (h : Closed c) : c.resetHeaders = c := by
  obtain ⟨_, _, _, _, _, _⟩ := c
  obtain ⟨rfl, rfl, rfl⟩ := h
  simp [resetHeaders, slistFreeAll]

theorem Closed.resetOptions_eq {c : CurlConnectionImpl} (h : Closed c) : c.resetOptions = c := by
  obtain ⟨_, _, _, _, _, _⟩ := c
  obtain ⟨rfl, rfl, rfl⟩ := h
  simp [resetOptions, resetHeaders, slistFreeAll]

theorem Closed.close_eq {c : CurlConnectionImpl} (h : Closed c) : c.close = c := by
  obtain ⟨_, _, _, _, _, _⟩ := c
  obtain ⟨rfl, rfl, rfl⟩ := h
  simp [close, slistFreeAll]

end CurlConnectionImpl

namespace CurlCall

open CurlConnectionImpl

variable (env : Env) {R : CurlConnectionImpl → CurlConnectionImpl → Prop}

/-- A call keeps a relation that the primitives it is made of keep: the `set_option`s a call
makes with values of its own (of every option but `CURLOPT_HTTPHEADER`, `CURLOPT_TIMEOUT_MS`
and the two the constructor sets), `ADD_headers`, `RESET_headers`, and the room `execute`
takes on its stack for its `WriteCallback`s. A direct `set_option` and `SET_timeout` set
what their caller chooses, and `RESET_options` and `close` undo what the constructor set,
so these are the caller's to show, for the call at hand. -/
theorem run_keeps (hrefl : Reflexive R) (htrans : Transitive R)
    (hset : ∀ o v, o ≠ .httpHeader ∧ o ≠ .timeoutMs ∧ o ≠ .noSignal ∧ o ≠ .errorBuffer →
      Cpp.Keeps R (CurlConnectionImpl.setOption env o v))
    (hadd : ∀ hs, Cpp.Keeps R (CurlConnectionImpl.addHeaders env hs))
    (hreset : ∀ c, R c c.resetHeaders)
    (hnext : ∀ c : CurlConnectionImpl, R c { c with next := c.next + 2 })
    (call : CurlCall)
    (hdirect : ∀ o v, call = .setOption o v → Cpp.Keeps R (CurlConnectionImpl.setOption env o v))
    (htimeout : ∀ t, call = .setTimeout t → Cpp.Keeps R (CurlConnectionImpl.setTimeout env t))
    (hopts : call = .resetOptions → ∀ c, R c c.resetOptions)
    (hclose : call = .close → ∀ c, R c c.close) :
    Cpp.Keeps R (call.run env) := by
  have hset₂ : ∀ o₁ o₂ v₁ v₂,
      (o₁ ≠ .httpHeader ∧ o₁ ≠ .timeoutMs ∧ o₁ ≠ .noSignal ∧ o₁ ≠ .errorBuffer) ∧
      (o₂ ≠ .httpHeader ∧ o₂ ≠ .timeoutMs ∧ o₂ ≠ .noSignal ∧ o₂ ≠ .errorBuffer) →
      Cpp.Keeps R (do
        CurlConnectionImpl.setOption env o₁ v₁; CurlConnectionImpl.setOption env o₂ v₂) :=
    fun _ _ _ _ h => .bind htrans (hset _ _ h.1) fun _ => hset _ _ h.2
  have hfields : ∀ fields, Cpp.Keeps R (CurlConnectionImpl.setFieldsText env fields) :=
    fun fields c => by
      unfold CurlConnectionImpl.setFieldsText
      split_ifs
      · exact hrefl c
      · exact hrefl c
      · exact hset _ _ (by decide) c
  have hprepare : ∀ b, Cpp.Keeps R (prepare env b) := fun b c => by
    unfold prepare
    by_cases hc : c.handle.isNone
    · rw [if_pos hc]; exact hrefl c
    · rw [if_neg hc]
      refine htrans (hnext c) (Cpp.Keeps.bind htrans (hset _ _ (by decide))
        (fun _ => .bind htrans (hset _ _ (by decide)) fun _ => ?_) _)
      cases b
      · exact .pure hrefl _
      · exact hset₂ _ _ _ _ (by decide)
  cases call with
  | setOption o v => exact hdirect o v rfl
  | setTimeout timeout => exact htimeout timeout rfl
  | addHeaders hs => exact hadd hs
  | resetHeaders => exact .modify hreset
  | resetOptions => exact .modify (hopts rfl)
  | close => exact .modify (hclose rfl)
  | setFields fields => exact hfields _
  | setFieldsText fields => exact hfields _
  | execute b =>
      exact .bind htrans (.bind htrans (hprepare b) fun _ => perform_keeps env hrefl b) fun _ =>
        .pure hrefl _
  | setEncoding enc => exact hset _ _ (by decide)
  | setKeepalive enabled => exact hset _ _ (by decide)
  | setUrl url => exact hset₂ _ _ _ _ (by decide)
  | setSslVerify enabled => exact hset₂ _ _ _ _ (by decide)
  | setSslVerifyUsingCaBundle path =>
      exact .bind htrans (hset₂ _ _ _ _ (by decide))
        fun _ => hset _ _ (by decide)
  | setSslVerifyUsingCaCerts dir =>
      exact .bind htrans (hset₂ _ _ _ _ (by decide))
        fun _ => hset _ _ (by decide)

theorem run_mirror (call : CurlCall) : Cpp.Keeps (Cpp.Kept OptionsMirror) (call.run env) :=
  run_keeps env (Cpp.kept_refl _) (Cpp.kept_trans _) (fun o v _ => setOption_mirror env o v)
    (addHeaders_mirror env) resetHeaders_mirror (fun _ => id) call
    (fun o v _ => setOption_mirror env o v) (fun _ _ => setOption_mirror env _ _)
    (fun _ => resetOptions_mirror) (fun _ => close_mirror)

/-- The call is not a `set_option` of `CURLOPT_HTTPHEADER`. -/
def LeavesHeaderOption : CurlCall → Prop
  | .setOption o _ => o ≠ .httpHeader
  | _ => True

instance : DecidablePred LeavesHeaderOption
  | .setOption o _ => inferInstanceAs (Decidable (o ≠ .httpHeader))
  | .setUrl _ | .setSslVerify _ | .setSslVerifyUsingCaBundle _ | .setSslVerifyUsingCaCerts _
  | .setEncoding _ | .setKeepalive _ | .setTimeout _ | .addHeaders _ | .resetHeaders
  | .setFields _ | .setFieldsText _ | .resetOptions | .execute _ | .close => isTrue trivial

theorem run_heapOk (call : CurlCall) (hcall : call.LeavesHeaderOption) :
    Cpp.Keeps (Cpp.Kept HeapOk) (call.run env) :=
  run_keeps env (Cpp.kept_refl _) (Cpp.kept_trans _) (fun _ v h => setOption_heapOk env h.1 v)
    (addHeaders_heapOk env) resetHeaders_heapOk
    (fun c hc => hc.of_frame (fun _ => id) hc.header_live rfl rfl) call
    (fun o v h => setOption_heapOk env (by subst h; exact hcall) v)
    (fun _ _ => setOption_heapOk env (by decide) _) (fun _ => resetOptions_heapOk)
    (fun _ => close_heapOk)

theorem run_closed (call : CurlCall) {c : CurlConnectionImpl} (h : Closed c) :
    call.run env c = .error .handleClosed c ∨ call.run env c = .ok () c := by
  have hset := setOption_closed env h.handle
  have hnone : c.handle.isNone := by simp [h.handle]
  cases call with
  | resetHeaders => exact .inr (by rw [run, Cpp.modify_apply, h.resetHeaders_eq])
  | resetOptions => exact .inr (by rw [run, Cpp.modify_apply, h.resetOptions_eq])
  | close => exact .inr (by rw [run, Cpp.modify_apply, h.close_eq])
  | addHeaders hs => exact .inl (by simp only [run, CurlConnectionImpl.addHeaders, hnone, if_true])
  | setFields fields | setFieldsText fields =>
      exact .inl (by
        simp only [run, CurlConnectionImpl.setFields, CurlConnectionImpl.setFieldsText, hnone,
          if_true])
  | execute b =>
      exact .inl (by
        simp only [run, CurlConnectionImpl.execute, Cpp.bind_apply, prepare, hnone, if_true])
  | _ => exact .inl (by
      simp only [run, CurlConnectionImpl.setUrl, CurlConnectionImpl.setSslVerify,
        CurlConnectionImpl.setSslVerifyUsingCaBundle, CurlConnectionImpl.setSslVerifyUsingCaCerts,
        CurlConnectionImpl.setEncoding, CurlConnectionImpl.setKeepalive,
        CurlConnectionImpl.setTimeout, Cpp.bind_apply, hset])

end CurlCall

namespace CurlConnectionImpl

variable (env : Env)

theorem initial_mirror : OptionsMirror (initial env) := fun _ => .inl (by
  unfold initial; split <;> rfl)

theorem initial_heapOk : HeapOk (initial env) := .of_released rfl rfl

theorem new_preserves {P : CurlConnectionImpl → Prop} (hinit : P (initial env))
    (hset : ∀ o v, o ≠ .httpHeader ∧ o ≠ .timeoutMs → Cpp.Keeps (Cpp.Kept P) (setOption env o v))
    {c : CurlConnectionImpl} (hnew : new env = .ok c) : P c := by
  unfold new at hnew
  split at hnew
  · rename_i c₁ hr
    cases hnew
    exact (Cpp.Keeps.bind (Cpp.kept_trans _) (hset _ _ (by decide)) fun _ =>
      hset _ _ (by decide)).of_ok hr hinit
  · cases hnew

theorem new_mirror {c : CurlConnectionImpl} (hnew : new env = .ok c) : OptionsMirror c :=
  new_preserves env (initial_mirror env) (fun o v _ => setOption_mirror env o v) hnew

theorem runCalls_mirror (calls : List CurlCall) {c : CurlConnectionImpl} (hc : OptionsMirror c) :
    OptionsMirror (runCalls env calls c) :=
  @runCalls_preserves env _ (fun _ => True) (fun call _ => call.run_mirror env) calls
    (fun _ _ => trivial) c hc

/-- Over every run of calls of the interface on an object either constructor built, whether
each call returns or throws, `_options` holds the text of every value the libcurl handle
holds, so `GET_url`, `GET_timeout`, `get_option_strings` and `operator<<` show it. The one
exception is `CURLOPT_HTTPHEADER`, which `RESET_headers` erases from `_options` and leaves on
the handle. Where the handle holds nothing, `_options` may still hold text: libcurl frees a
string option's copy before it checks a new one, so after a refused string the handle holds
nothing for the option and `_options` the text before it. -/
theorem options_record_handle (calls : List CurlCall) {c : CurlConnectionImpl}
    (hnew : new env = .ok c ∨ ∃ url, newUrl env url = .ok c) :
    OptionsMirror (runCalls env calls c) := by
  refine runCalls_mirror env calls ?_
  rcases hnew with hnew | ⟨url, hurl⟩
  · exact new_mirror env hnew
  · obtain ⟨c₀, hnew, hreach⟩ := @newUrl_reachedBy env (fun _ => True) url trivial c hurl
    exact hreach.preserves env (fun call _ => call.run_mirror env) (new_mirror env hnew)

/-- The environment whose libcurl refuses the URL `"http://b"`, as it refuses one longer than
`CURL_MAX_INPUT_LENGTH`, and accepts everything else. -/
def refusesUrl : Env :=
  { Env.accepting with setopt := fun o v => !(o == .url && v == .str "http://b".toList) }

/-- `SET_url("http://a")`, then a refused `SET_url("http://b")`: `GET_url` still reads
`"http://a"`, and the handle holds no URL. -/
theorem options_record_handle_refused :
    new refusesUrl = .ok (Cpp.stateOf (ctorOptions refusesUrl (initial refusesUrl))) ∧
    OptionsMirror (runCalls refusesUrl [.setUrl "http://a".toList, .setUrl "http://b".toList]
      (Cpp.stateOf (ctorOptions refusesUrl (initial refusesUrl)))) ∧
    getUrl (runCalls refusesUrl [.setUrl "http://a".toList, .setUrl "http://b".toList]
      (Cpp.stateOf (ctorOptions refusesUrl (initial refusesUrl)))) = "http://a".toList ∧
    (runCalls refusesUrl [.setUrl "http://a".toList, .setUrl "http://b".toList]
      (Cpp.stateOf (ctorOptions refusesUrl (initial refusesUrl)))).handle.bind (· .url) = none :=
  ⟨rfl, options_record_handle refusesUrl _ (.inl rfl), by decide, by decide⟩

theorem new_heapOk {c : CurlConnectionImpl} (hnew : new env = .ok c) : HeapOk c :=
  new_preserves env (initial_heapOk env) (fun _ v h => setOption_heapOk env h.1 v) hnew

theorem runCalls_heapOk (calls : List CurlCall) (hcalls : ∀ call ∈ calls, call.LeavesHeaderOption)
    {c : CurlConnectionImpl} (hc : HeapOk c) : HeapOk (runCalls env calls c) :=
  runCalls_preserves env (fun call h => call.run_heapOk env h) calls hcalls c hc

/-- Over every run of calls of the interface from construction, whether each call returns
or throws, in which no `set_option` of `CURLOPT_HTTPHEADER` comes from outside: `_header` is
null or a list not yet freed, and while `_options` records `CURLOPT_HTTPHEADER`, the
handle's `CURLOPT_HTTPHEADER` is null or a list not yet freed. `RESET_headers` and `close`
free only `_header`, and `ADD_headers` only extends it. -/
theorem header_lists_never_dangle (calls : List CurlCall)
    (hcalls : ∀ call ∈ calls, call.LeavesHeaderOption) {c : CurlConnectionImpl}
    (hnew : new env = .ok c) : HeapOk (runCalls env calls c) :=
  runCalls_heapOk env calls hcalls (new_heapOk env hnew)

theorem header_lists_never_dangle_sample :
    (∀ call ∈ [CurlCall.addHeaders [("a".toList, "b".toList)], .resetHeaders,
      .addHeaders [("c".toList, "d".toList)]], call.LeavesHeaderOption) ∧
    new Env.accepting = .ok (Cpp.stateOf (ctorOptions Env.accepting (initial Env.accepting))) ∧
    HeapOk (runCalls Env.accepting [.addHeaders [("a".toList, "b".toList)], .resetHeaders,
      .addHeaders [("c".toList, "d".toList)]]
      (Cpp.stateOf (ctorOptions Env.accepting (initial Env.accepting)))) :=
  ⟨by decide, rfl, header_lists_never_dangle Env.accepting _ (by decide) rfl⟩

theorem runCalls_closed (calls : List CurlCall) {c : CurlConnectionImpl} (h : Closed c) :
    runCalls env calls c = c := by
  induction calls with
  | nil => rfl
  | cons call calls ih =>
      show runCalls env calls (Cpp.stateOf (call.run env c)) = c
      rcases call.run_closed env h with hr | hr <;> rw [hr] <;> exact ih

/-- `close` is final. On the object it leaves, every call of the interface throws
"connection/handle has been closed" or returns, and changes nothing either way; so every
later run of calls leaves it as it is, `is_closed` stays true, `GET_url` returns `""`, and
`GET_headers` and `has_headers` report no header. -/
theorem close_is_final (c : CurlConnectionImpl) (calls : List CurlCall) :
    runCalls env calls c.close = c.close ∧
    (∀ call : CurlCall, call.run env c.close = .error .handleClosed c.close ∨
      call.run env c.close = .ok () c.close) ∧
    c.close.isClosed = true ∧ c.close.getUrl = [] ∧ c.close.getHeaders = .ok [] ∧
    c.close.hasHeaders = false :=
  ⟨runCalls_closed env calls (close_closed c), fun call => call.run_closed env (close_closed c),
    rfl, rfl, rfl, by simp [hasHeaders, close]⟩

end CurlConnectionImpl

end CurlConnect
