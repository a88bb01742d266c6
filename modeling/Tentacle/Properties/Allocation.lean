import Tentacle.Service.Session

/-!
# session id の割り当て

`generate_next_session` は `next_session` を wrap-around しながら一つずつ進め、`sessions` の
key でない最初の id で止まる。model ではその loop を、繰り返しの回数を `fuel` とする
`nextFreeSession` で表している。

* `skipped_le_len` — loop が飛ばす id はどれも違う key なので、飛ばす数は `sessions` の数を
  超えない
* `generateNextSession_first_free` — `sessions` の数が `2^32` より少なければ、loop は
  `|sessions| + 1` 回までで終わり、前の値から数えて最初の空いた id を返す

前の値から `j` 番目の id を `id + BitVec.ofNat 32 j` と書く。足し算は `wrapping_add` である。
-/

namespace Tentacle

/-! ## loop の一回分 -/

theorem add_one_add_ofNat (id : SessionId) (i : Nat) :
    id + 1 + BitVec.ofNat 32 (i + 1) = id + BitVec.ofNat 32 (i + 1 + 1) := by
  bv_omega

/-- 前の値から `j + 1` 番目で初めて空いた id に出会うなら、`j` 回より多い繰り返しを許した
loop はそこで止まる。 -/
theorem nextFreeSession_of_first_free {m : HashMap SessionId SessionController} :
    ∀ (j fuel : Nat) (id : SessionId), j < fuel →
      (∀ i < j, id + BitVec.ofNat 32 (i + 1) ∈ m) → id + BitVec.ofNat 32 (j + 1) ∉ m →
      nextFreeSession m fuel id = some (id + BitVec.ofNat 32 (j + 1))
  | _, 0, _, h, _, _ => absurd h (Nat.not_lt_zero _)
  | 0, _ + 1, id, _, _, hj => by
    have hj : id + 1 ∉ m := by simpa using hj
    rw [nextFreeSession, if_neg hj]
    rfl
  | j + 1, fuel + 1, id, h, hs, hj => by
    have h1 : id + 1 ∈ m := by simpa using hs 0 (Nat.succ_pos j)
    rw [nextFreeSession, if_pos h1, ← add_one_add_ofNat,
      nextFreeSession_of_first_free j fuel (id + 1) (by omega)
        (fun i hi => add_one_add_ofNat id i ▸ hs (i + 1) (by omega))
        (add_one_add_ofNat id j ▸ hj)]

/-! ## 飛ばす id の数 -/

/-- 前の値から `1` 番目から `n` 番目までの id がどれも key なら（`n ≤ 2^32` なので、それらは
どれも違う id である）、`n` は `sessions` の数を超えない。 -/
theorem skipped_le_len {m : HashMap SessionId SessionController} {id : SessionId} {n : Nat}
    (hn : n ≤ 2 ^ 32) (h : ∀ i < n, id + BitVec.ofNat 32 (i + 1) ∈ m) : n ≤ m.len := by
  have hnd : ((List.range n).map fun i => id + BitVec.ofNat 32 (i + 1)).Nodup :=
    (List.nodup_range n).map_on fun i hi i' hi' he => by
      rw [List.mem_range] at hi hi'
      bv_omega
  calc n = ((List.range n).map fun i => id + BitVec.ofNat 32 (i + 1)).length := by simp
    _ ≤ m.keys.length := (List.subperm_of_subset hnd fun x hx => by
        obtain ⟨i, hi, rfl⟩ := List.mem_map.mp hx
        exact AList.mem_keys.mp (h i (List.mem_range.mp hi))).length_le
    _ = m.len := (AList.len_eq_length_keys m).symm

/-- `n` までに `P` を満たさない数があれば、その最初のものがある。loop が最初の空いた id で
止まることを、飛ばす id の数について帰納法で言うのに使う。 -/
theorem exists_first_not {P : Nat → Prop} :
    ∀ n, (∃ i ≤ n, ¬P i) → ∃ j ≤ n, (∀ i < j, P i) ∧ ¬P j
  | 0, ⟨i, hi, h⟩ => ⟨0, le_rfl, fun _ h => absurd h (Nat.not_lt_zero _), Nat.le_zero.mp hi ▸ h⟩
  | n + 1, ⟨i, hi, h⟩ => by
    by_cases hn : ∃ i ≤ n, ¬P i
    · obtain ⟨j, hj, hs, hf⟩ := exists_first_not n hn
      exact ⟨j, by omega, hs, hf⟩
    · simp only [not_exists, not_and, not_not] at hn
      have hi : i = n + 1 := by
        by_contra hne
        exact h (hn i (by omega))
      exact ⟨n + 1, le_rfl, fun i hi => hn i (by omega), hi ▸ h⟩

/-- `sessions` の数が `2^32` より少なければ、前の値から `|sessions| + 1` 番目までに空いた id が
あり、その最初のものを取れる。 -/
theorem exists_first_free (m : HashMap SessionId SessionController) (id : SessionId)
    (h : m.len < 2 ^ 32) :
    ∃ j ≤ m.len, (∀ i < j, id + BitVec.ofNat 32 (i + 1) ∈ m) ∧
      id + BitVec.ofNat 32 (j + 1) ∉ m := by
  refine exists_first_not m.len ?_
  by_contra hc
  simp only [not_exists, not_and, not_not] at hc
  have := skipped_le_len (by omega : m.len + 1 ≤ 2 ^ 32) fun i hi => hc i (by omega)
  omega

/-! ## generate_next_session -/

/-- `sessions` の数が `2^32` より少なければ、`generate_next_session` の loop は
`|sessions| + 1` 回までの繰り返しで終わる。そのとき `next_session` は、前の値から
wrap-around しながら数えて最初の、`sessions` の key でない id になる。だから新しい session に
渡る id は、生きている session の id ではない。 -/
theorem generateNextSession_first_free (s : Service) (h : s.sessions.len < 2 ^ 32) :
    ∃ j ≤ s.sessions.len,
      (∀ i < j, s.nextSession + BitVec.ofNat 32 (i + 1) ∈ s.sessions) ∧
      s.nextSession + BitVec.ofNat 32 (j + 1) ∉ s.sessions ∧
      nextFreeSession s.sessions (j + 1) s.nextSession =
        some (s.nextSession + BitVec.ofNat 32 (j + 1)) ∧
      generateNextSession s =
        some { s with nextSession := s.nextSession + BitVec.ofNat 32 (j + 1) } := by
  obtain ⟨j, hj, hs, hfree⟩ := exists_first_free s.sessions s.nextSession h
  refine ⟨j, hj, hs, hfree, nextFreeSession_of_first_free j (j + 1) _ (by omega) hs hfree, ?_⟩
  simp only [generateNextSession,
    nextFreeSession_of_first_free j (2 ^ 32) _ (by omega) hs hfree, Option.map_some']

/-- 例：id `0` の session が一つあり、`next_session` が最大値のとき、loop は `0` を飛ばして
`1` を返す。 -/
def wrapService : Service :=
  { Service.new false with
    sessions :=
      (∅ : HashMap SessionId SessionController).insert 0 ⟨⟨0, [], .inbound, none⟩, Buffer.new⟩
    nextSession := BitVec.ofNat 32 (2 ^ 32 - 1) }

theorem generateNextSession_first_free_wrap :
    wrapService.sessions.len < 2 ^ 32 ∧
    ∃ j ≤ wrapService.sessions.len,
      (∀ i < j, wrapService.nextSession + BitVec.ofNat 32 (i + 1) ∈ wrapService.sessions) ∧
      wrapService.nextSession + BitVec.ofNat 32 (j + 1) ∉ wrapService.sessions ∧
      nextFreeSession wrapService.sessions (j + 1) wrapService.nextSession =
        some (wrapService.nextSession + BitVec.ofNat 32 (j + 1)) ∧
      generateNextSession wrapService =
        some { wrapService with
          nextSession := wrapService.nextSession + BitVec.ofNat 32 (j + 1) } :=
  ⟨by decide, generateNextSession_first_free wrapService (by decide)⟩

example : (generateNextSession wrapService).map (·.nextSession) = some 1 := by decide

end Tentacle
