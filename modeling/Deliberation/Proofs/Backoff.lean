import Deliberation.CommandLine
import Deliberation.Proofs.Retries
/-! The waits of a request whose attempts all fail, for any number of retries and any first wait. Each wait
is twice the one before it. Where a wait, or the power of two in it, has no room in its word, the request
breaks off, so that no request is retried more than 64 times. -/

namespace Deliberation.Chat

namespace Endpoint

variable {e : Endpoint}

theorem Fits.of_le {i j : Nat} (fits : e.Fits j) (before : i ≤ j) : e.Fits i := by
  have smaller : 2 ^ i ≤ 2 ^ j := Nat.pow_le_pow_right Nat.two_pos before
  exact ⟨Nat.lt_of_le_of_lt smaller fits.1, Nat.lt_of_le_of_lt (Nat.mul_le_mul_left _ smaller) fits.2⟩

theorem Fits.lt_64 {i : Nat} (fits : e.Fits i) : i < 64 :=
  (Nat.pow_lt_pow_iff_right Nat.one_lt_two).mp fits.1

/-- The power alone leaves room for 64 retries. -/
theorem le_64_of_fits {count : Nat} (fits : ∀ i < count, e.Fits i) : count ≤ 64 := by
  by_contra many
  exact Nat.lt_irrefl 64 (fits 64 (Nat.lt_of_not_le many)).lt_64

/-- The waits of some retries have room, or there is a first one that has none. -/
theorem fits_or_exists_first (e : Endpoint) (retries : Nat) :
    (∀ i < retries, e.Fits i) ∨ ∃ k < retries, ¬e.Fits k ∧ ∀ i < k, e.Fits i := by
  induction retries with
  | zero => exact .inl fun i inside => absurd inside (Nat.not_lt_zero i)
  | succ retries ih =>
    obtain fits | ⟨k, inside, first⟩ := ih
    · by_cases last : e.Fits retries
      · exact .inl fun i inside => last.of_le (Nat.le_of_lt_succ inside)
      · exact .inr ⟨retries, Nat.lt_succ_self _, last, fits⟩
    · exact .inr ⟨k, Nat.lt_succ_of_lt inside, first⟩

end Endpoint

/-- Waits never get shorter. -/
theorem Conversation.Retries.waits_ordered {σ : Type} {e : Endpoint}
    {attempt : σ → Except BackendError Response × σ} {state final : σ} {count : Nat} {c : Conversation}
    (retried : c.Retries attempt state e count final) :
    c.waits.Pairwise fun earlier later => earlier.2 ≤ later.2 := by
  rw [retried.waits, List.pairwise_map]
  exact List.pairwise_lt_range.imp fun before =>
    Nat.mul_le_mul_left _ (Nat.pow_le_pow_right Nat.two_pos (Nat.le_of_lt before))

/-- A request whose attempts all fail in a way that may pass. As long as the waits have room in their words,
they are the first one doubled for each retry before them, and so never shorter than the one before. If all
of them have room, there is one attempt more than there are retries, and the error tells how many there were.
Else the request breaks off before the first wait without room, with no result at all. Then it has made fewer
attempts. That comes after 65 attempts at the latest, whatever the first wait is. -/
theorem converse_backs_off {σ : Type} (e : Endpoint) (attempt : σ → Except BackendError Response × σ)
    (state : σ) (unsettled : ∀ i ≤ e.maxRetries.toNat, ¬Settles (resultAt attempt state i)) :
    let c := (converse e attempt state).1
    let final := (converse e attempt state).2
    let retries := e.maxRetries.toNat
    let fits (i : Nat) := 2 ^ i < 2 ^ 64 ∧ e.retryDelayMs.toNat * 2 ^ i < 2 ^ 64
    ((∀ i < retries, fits i) ∧ c.Retries attempt state e retries final ∧
        (∃ error attempts, resultAt attempt state retries = .error error ∧
          c.result = .ok (.error (.unavailable error.message attempts)) ∧ attempts.toNat = retries + 1) ∨
      ∃ k < retries, ¬fits k ∧ (∀ i < k, fits i) ∧ c.Retries attempt state e k final ∧
        c.result = .error {}) ∧
    (c.attempts = retries + 1 ↔ ∀ i < retries, fits i) ∧
    (64 < retries → c.result = .error {}) ∧
    c.attempts ≤ 65 ∧
    c.waits.Pairwise fun earlier later => earlier.2 ≤ later.2 := by
  intro c final retries fits
  obtain room | ⟨k, inside, overflows, room⟩ := e.fits_or_exists_first retries
  · obtain ⟨retried, error, last, given⟩ := converse_of_spent room unsettled
    have few : retries ≤ 64 := Endpoint.le_64_of_fits room
    have count : (UInt32.ofNat (retries + 1)).toNat = retries + 1 :=
      UInt32.toNat_ofNat_of_lt' (Nat.lt_of_le_of_lt (Nat.succ_le_succ few) (by decide))
    refine ⟨.inl ⟨room, retried, error, _, last, given, count⟩, iff_of_true retried.attempts room,
      fun many => absurd few (Nat.not_le.mpr many), ?_, retried.waits_ordered⟩
    rw [retried.attempts]
    exact Nat.succ_le_succ few
  · obtain ⟨broken, retried⟩ :=
      converse_of_overflow inside room overflows fun i before =>
        unsettled i (Nat.le_trans before (Nat.le_of_lt inside))
    refine ⟨.inr ⟨k, inside, overflows, room, retried, broken⟩,
      iff_of_false (fun all => ?_) (fun all => overflows (all k inside)), fun _ => broken, ?_,
      retried.waits_ordered⟩
    · rw [retried.attempts] at all
      exact Nat.ne_of_lt inside (Nat.succ.inj all)
    · rw [retried.attempts]
      exact Nat.succ_le_succ (Endpoint.le_64_of_fits room)

/-- An endpoint that stays busy, with four attempts. -/
theorem converse_backs_off_of_busy :
    let e : Endpoint := ⟨"http://localhost", none, "model", 1000, 3, 100⟩
    let busy (n : Nat) : Except BackendError Response × Nat := (.error (.api 503 "busy"), n + 1)
    (converse e busy 0).1.attempts = 4 ∧
      (converse e busy 0).1.waits.Pairwise fun earlier later => earlier.2 ≤ later.2 := by
  intro e busy
  have never (i : Nat) : ¬Settles (resultAt busy 0 i) := by
    rintro ⟨-, refusal, -⟩
    exact absurd refusal (by decide)
  obtain ⟨-, counted, -, -, ordered⟩ := converse_backs_off e busy 0 fun i _ => never i
  exact ⟨counted.mpr (by decide), ordered⟩

/-- Settings that ask for 65 retries without any wait. -/
def noWaits : SettingSource
  | "MAX_RETRIES" => some "65"
  | "RETRY_DELAY_MS" => some "0"
  | _ => none

/-- A configuration can be loaded whose last retry is never made, as its power of two has no room. -/
theorem exists_retry_overflow :
    ∃ config, Config.load noWaits = .ok config ∧ config.maxRetries.toNat = 65 ∧
      let busy (n : Nat) : Except BackendError Response × Nat := (.error (.api 500 "busy"), n + 1)
      (converse config.endpoint busy 0).1.result = .error {} ∧
        (converse config.endpoint busy 0).1.attempts = 65 := by
  have numbers : (Config.load noWaits).toOption.map (fun c => (c.maxRetries, c.retryDelayMs)) =
      some (65, 0) := by
    decide +kernel
  cases loaded : Config.load noWaits with
  | error refused => exact nomatch loaded ▸ numbers
  | ok config =>
    rw [loaded] at numbers
    obtain ⟨retries, first⟩ := Prod.mk.inj (Option.some.inj numbers)
    have many : config.maxRetries.toNat = 65 := congrArg UInt32.toNat retries
    refine ⟨config, rfl, many, ?_⟩
    intro busy
    have never (i : Nat) : ¬Settles (resultAt busy 0 i) := by
      rintro ⟨-, refusal, -⟩
      exact absurd refusal (by decide)
    have fits : ∀ i < 64, config.endpoint.Fits i := by
      intro i inside
      have power : 2 ^ i < 2 ^ 64 := Nat.pow_lt_pow_right Nat.one_lt_two inside
      have nothing : config.endpoint.retryDelayMs.toNat = 0 := congrArg UInt64.toNat first
      exact ⟨power, by rw [nothing, Nat.zero_mul]; decide⟩
    have overflows : ¬config.endpoint.Fits 64 := fun fits => Nat.lt_irrefl 64 fits.lt_64
    have room : 64 < config.endpoint.maxRetries.toNat := by
      show 64 < config.maxRetries.toNat
      omega
    obtain ⟨broken, retried⟩ := converse_of_overflow room fits overflows fun i _ => never i
    exact ⟨broken, retried.attempts⟩

end Deliberation.Chat
