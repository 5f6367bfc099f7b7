import Deliberation.Proofs.Retries
/-! Answers of which only a part comes in. Every part of an answer is the beginning of a head, or a head with
the beginning of a body. A request without a head fails in a way that may pass and is tried again, whereas
one without the rest of its body counts as answered with something that cannot be used. -/

namespace Deliberation

namespace Http

section
variable {front back rest : List UInt8}

theorem cutFeed?_append {line : List UInt8} (cut : cutFeed? front = some (line, rest)) :
    cutFeed? (front ++ back) = some (line, rest ++ back) := by
  induction front generalizing line with
  | nil => simp [cutFeed?] at cut
  | cons b front ih =>
    simp only [List.cons_append, cutFeed?] at cut ⊢
    split
    · rename_i feed
      rw [if_pos feed] at cut
      obtain ⟨rfl, rfl⟩ := Prod.mk.inj (Option.some.inj cut)
      rfl
    · rename_i other
      rw [if_neg other, Option.map_eq_some_iff] at cut
      obtain ⟨⟨first, behind⟩, inner, same⟩ := cut
      obtain ⟨rfl, rfl⟩ := Prod.mk.inj same
      rw [ih inner]
      rfl

theorem line?_append {line : List Char} (cut : line? front = some (line, rest)) :
    line? (front ++ back) = some (line, rest ++ back) := by
  obtain ⟨⟨first, behind⟩, inner, same⟩ := Option.map_eq_some_iff.mp cut
  obtain ⟨rfl, rfl⟩ := Prod.mk.inj same
  rw [line?, cutFeed?_append inner]
  rfl

theorem lines?_of_line? {line : List Char} (cut : line? front = some (line, rest)) :
    lines? front = if line = [] then some ([], rest)
      else (lines? rest).map fun parts => (line :: parts.1, parts.2) := by
  conv => lhs; rw [lines?]
  generalize line? front = found at cut ⊢
  subst cut
  cases line <;> rfl

theorem lines?_of_line?_eq_none (endless : line? front = none) : lines? front = none := by
  rw [lines?]
  generalize line? front = found at endless ⊢
  subst endless
  rfl

theorem exists_line?_of_lines? {lines : List (List Char)} (cut : lines? front = some (lines, rest)) :
    ∃ line behind, line? front = some (line, behind) := by
  cases found : line? front with
  | some parts => exact ⟨parts.1, parts.2, rfl⟩
  | none =>
    rw [lines?_of_line?_eq_none found] at cut
    contradiction

theorem lines?_append {lines : List (List Char)} (cut : lines? front = some (lines, rest)) :
    lines? (front ++ back) = some (lines, rest ++ back) := by
  fun_induction lines? front generalizing lines with
  | case1 => contradiction
  | case2 front behind first =>
    obtain ⟨rfl, rfl⟩ := Prod.mk.inj (Option.some.inj cut)
    rw [lines?_of_line? (line?_append first), if_pos rfl]
  | case3 front line behind filled first ih =>
    obtain ⟨⟨others, last⟩, inner, same⟩ := Option.map_eq_some_iff.mp cut
    obtain ⟨rfl, rfl⟩ := Prod.mk.inj same
    rw [lines?_of_line? (line?_append first), if_neg filled, ih inner]
    rfl

/-- Behind the empty lines of a part there is nothing, or half of another empty line, or no empty line. -/
theorem skipEmpty_cases (front : List UInt8) :
    skipEmpty front = [] ∨ skipEmpty front = [13] ∨
      ∀ back, skipEmpty (front ++ back) = skipEmpty front ++ back := by
  fun_induction skipEmpty front with
  | case1 rest ih => exact ih
  | case2 rest ih => exact ih
  | case3 front returnless feedless =>
    cases front with
    | nil => exact .inl rfl
    | cons b rest =>
      have other : b ≠ 10 := fun feed => feedless rest (by rw [feed])
      cases rest with
      | nil =>
        by_cases half : b = 13
        · exact .inr (.inl (by rw [half]))
        · refine .inr (.inr fun back => skipEmpty.eq_3 _ ?_ ?_)
          · exact fun rest same => half (List.cons.inj same).1
          · exact fun rest same => other (List.cons.inj same).1
      | cons c rest =>
        refine .inr (.inr fun back => skipEmpty.eq_3 _ ?_ ?_)
        · intro later whole
          obtain ⟨first, tail⟩ := List.cons.inj whole
          have second : c = 10 := (List.cons.inj tail).1
          exact returnless rest (by rw [first, second])
        · exact fun later same => other (List.cons.inj same).1

theorem eq_append_of_cutFeed? {line : List UInt8} (cut : cutFeed? front = some (line, rest)) :
    front = line ++ 10 :: rest := by
  induction front generalizing line with
  | nil => simp [cutFeed?] at cut
  | cons b front ih =>
    simp only [cutFeed?] at cut
    split at cut
    · rename_i feed
      obtain ⟨rfl, rfl⟩ := Prod.mk.inj (Option.some.inj cut)
      rw [feed, List.nil_append]
    · obtain ⟨⟨first, behind⟩, inner, same⟩ := Option.map_eq_some_iff.mp cut
      obtain ⟨rfl, rfl⟩ := Prod.mk.inj same
      rw [ih inner, List.cons_append]

theorem prefix_of_line? {line : List Char} (cut : line? front = some (line, rest)) :
    line <+: chars front := by
  obtain ⟨⟨first, behind⟩, inner, same⟩ := Option.map_eq_some_iff.mp cut
  obtain ⟨rfl, rfl⟩ := Prod.mk.inj same
  have shorter : Text.dropReturn (chars first).reverse <:+ (chars first).reverse := by
    unfold Text.dropReturn
    split
    · rename_i whole
      rw [whole]
      exact List.suffix_cons _ _
    · exact List.suffix_refl _
  have start : (Text.dropReturn (chars first).reverse).reverse <+: chars first := by
    simpa using List.reverse_prefix.mpr shorter
  rw [eq_append_of_cutFeed? inner]
  simp only [chars, List.map_append]
  exact start.trans (List.prefix_append _ _)

theorem version_of_statusLine? {line : List Char} {stated : Bool × UInt16}
    (read : statusLine? line = some stated) : "HTTP/1.".toList <+: line := by
  unfold statusLine? at read
  cases newer : Text.after? "HTTP/1.1 ".toList line with
  | some later =>
    rw [Text.after?_eq_some.mp newer]
    exact .trans (by decide) (List.prefix_append _ _)
  | none =>
    cases older : Text.after? "HTTP/1.0 ".toList line with
    | some later =>
      rw [Text.after?_eq_some.mp older]
      exact .trans (by decide) (List.prefix_append _ _)
    | none =>
      rw [newer, older] at read
      contradiction

theorem version_of_ofLines? {bytes : List UInt8} {lines : List (List Char)} {head : Head}
    (cut : lines? bytes = some (lines, rest)) (read : Head.ofLines? lines = some head) :
    "HTTP/1.".toList <+: chars bytes := by
  cases lines with
  | nil => contradiction
  | cons first others =>
    obtain ⟨stated, version, -⟩ := Option.bind_eq_some_iff.mp read
    obtain ⟨line, behind, found⟩ := exists_line?_of_lines? cut
    rw [lines?_of_line? found] at cut
    split at cut
    · simp at cut
    · obtain ⟨⟨inner, last⟩, -, same⟩ := Option.map_eq_some_iff.mp cut
      obtain rfl : line = first := (List.cons.inj (Prod.mk.inj same).1).1
      exact (version_of_statusLine? version).trans (prefix_of_line? found)

theorem mayBegin_of_prefix {start text : List Char} (first : "HTTP/1.".toList <+: text)
    (part : start <+: text) : mayBegin start = true := by
  have same : start.take 7 = "HTTP/1.".toList.take start.length := by
    obtain ⟨rest, rfl⟩ | ⟨rest, whole⟩ := List.prefix_or_prefix_of_prefix first part
    · have length : "HTTP/1.".toList.length = 7 := rfl
      rw [← length, List.take_left, List.take_of_length_le (by simp)]
    · have short : start.length ≤ 7 := by
        have length := congrArg List.length whole
        simp at length
        omega
      rw [List.take_of_length_le short, ← whole, List.take_left]
  simp [mayBegin, same]

end

section
variable {closed : Bool} {front back bytes rest : List UInt8} {answer : Answer}

/-- What follows on the lines of a head. -/
theorem progress_of_lines? {lines : List (List Char)}
    (cut : lines? (skipEmpty bytes) = some (lines, rest)) :
    progress closed bytes = match Head.ofLines? lines with
      | none => .malformed
      | some head =>
        if head.isInterim then progress closed rest
        else match head.framing? with
          | none => .malformed
          | some framing =>
            match framing.body? closed rest with
            | some body => .complete ⟨head.status, head.headers, body⟩
            | none => .body head := by
  conv => lhs; rw [progress]
  generalize lines? (skipEmpty bytes) = found at cut ⊢
  subst cut
  rfl

theorem progress_of_endless (endless : lines? (skipEmpty bytes) = none) :
    progress closed bytes = if mayBegin (chars (skipEmpty bytes)) then .head else .malformed := by
  rw [progress]
  generalize lines? (skipEmpty bytes) = found at endless ⊢
  subst endless
  rfl

theorem Head.of_complete {lines : List (List Char)} {head : Head} {framing : Framing}
    (cut : lines? (skipEmpty bytes) = some (lines, rest)) (read : Head.ofLines? lines = some head)
    (final : ¬head.isInterim = true) (framed : head.framing? = some framing)
    (whole : progress closed bytes = .complete answer) :
    head.status = answer.status ∧ head.headers = answer.headers := by
  rw [progress_of_lines? cut, read] at whole
  simp only [framed, if_neg final] at whole
  split at whole
  · obtain rfl := Progress.complete.inj whole
    exact ⟨rfl, rfl⟩
  · contradiction

theorem lines?_skipEmpty_append {lines : List (List Char)}
    (cut : lines? (skipEmpty front) = some (lines, rest)) :
    lines? (skipEmpty (front ++ back)) = some (lines, rest ++ back) := by
  rcases skipEmpty_cases front with nothing | half | solid
  · obtain ⟨line, behind, found⟩ := exists_line?_of_lines? cut
    rw [nothing] at found
    contradiction
  · obtain ⟨line, behind, found⟩ := exists_line?_of_lines? cut
    rw [half] at found
    contradiction
  · rw [solid]
    exact lines?_append cut

theorem mayBegin_of_complete (whole : progress true (front ++ back) = .complete answer) :
    mayBegin (chars (skipEmpty front)) = true := by
  rcases skipEmpty_cases front with nothing | half | solid
  · rw [nothing]
    decide
  · rw [half]
    decide
  · have part : chars (skipEmpty front) <+: chars (skipEmpty (front ++ back)) := by
      rw [solid]
      simp only [chars, List.map_append]
      exact List.prefix_append _ _
    cases cut : lines? (skipEmpty (front ++ back)) with
    | none =>
      rw [progress_of_endless cut] at whole
      split at whole <;> contradiction
    | some parts =>
      obtain ⟨lines, rest⟩ := parts
      rw [progress_of_lines? cut] at whole
      cases read : Head.ofLines? lines with
      | none =>
        rw [read] at whole
        contradiction
      | some head => exact mayBegin_of_prefix (version_of_ofLines? cut read) part

/-- A part of an answer is the beginning of a head, or it has the head of the answer. -/
theorem progress_of_part (closed : Bool) (whole : progress true (front ++ back) = .complete answer) :
    progress closed front = .head ∨
      (∃ head, progress closed front = .body head ∧
        head.status = answer.status ∧ head.headers = answer.headers) ∨
      ∃ body, progress closed front = .complete ⟨answer.status, answer.headers, body⟩ := by
  fun_induction progress closed front with
  | case1 => exact .inl rfl
  | case2 front _ strange => exact absurd (mayBegin_of_complete whole) strange
  | case3 front lines rest cut unread =>
    rw [progress_of_lines? (lines?_skipEmpty_append cut), unread] at whole
    contradiction
  | case4 front lines rest cut head read interim ih =>
    rw [progress_of_lines? (lines?_skipEmpty_append cut), read] at whole
    simp only [interim, if_true] at whole
    exact ih whole
  | case5 front lines rest cut head read final unframed =>
    rw [progress_of_lines? (lines?_skipEmpty_append cut), read] at whole
    simp [final, unframed] at whole
  | case6 front lines rest cut head read final framing framed body ended =>
    obtain ⟨status, headers⟩ := Head.of_complete (lines?_skipEmpty_append cut) read final framed whole
    exact .inr (.inr ⟨body, by rw [status, headers]⟩)
  | case7 front lines rest cut head read final framing framed unended =>
    have same := Head.of_complete (lines?_skipEmpty_append cut) read final framed whole
    exact .inr (.inl ⟨head, rfl, same⟩)

end

/-- The exchange of which some bytes came in when the connection ended or, where it is late, when the time
was over. -/
def reception (late : Bool) (bytes : List UInt8) : Exchange :=
  (progress (!late) bytes).exchange late

end Http

namespace Chat

section
variable {σ : Type} {e : Endpoint} {attempt : σ → Except BackendError Response × σ} {state : σ} {k : Nat}

/-- An attempt that fails in a way that may pass is followed by another one while there are retries left and
the wait before it has room. -/
theorem converse_of_error {error : BackendError} (reached : ∀ i < k, e.Fits i)
    (unsettled : ∀ i < k, ¬Settles (resultAt attempt state i)) (failed : resultAt attempt state k = .error error)
    (transient : ¬error.IsPermanent) (room : k < e.maxRetries.toNat) :
    (e.Fits k → k + 1 < (converse e attempt state).1.attempts) ∧
      (¬e.Fits k → (converse e attempt state).1.result = .error {} ∧
        (converse e attempt state).1.attempts = k + 1) := by
  have unsettled_too : ∀ i ≤ k, ¬Settles (resultAt attempt state i) := by
    intro i before
    obtain earlier | rfl := Nat.lt_or_eq_of_le before
    · exact unsettled i earlier
    · rw [failed]
      exact transient
  constructor
  · intro fits
    have from_start : 0 + (k + 1) ≤ e.maxRetries.toNat := by omega
    have fitting : ∀ i < k + 1, e.Fits (0 + i) := by
      intro i before
      rw [Nat.zero_add]
      obtain earlier | rfl := Nat.lt_succ_iff_lt_or_eq.mp before
      · exact reached i earlier
      · exact fits
    obtain ⟨failures, notices, gathered, -, whole⟩ := converseFrom_after_failures from_start fitting
      fun i before => unsettled_too i (Nat.le_of_lt_succ before)
    have counted : failures.length = k + 1 := by simpa using congrArg List.length gathered
    rw [converse, whole, Conversation.attempts, Conversation.behind, List.length_append, counted]
    omega
  · intro overflows
    obtain ⟨broken, retried⟩ := converse_of_overflow room reached overflows unsettled_too
    exact ⟨broken, retried.attempts⟩

end

theorem attempt_of_follow {σ : Type} {network : σ → Http.Request → Http.Exchange × σ}
    {request : Http.Request} {state next : σ} {exchange : Http.Exchange} (e : Endpoint)
    (followed : Http.follow network Http.mostRedirects request state = (.ok exchange, next)) :
    e.attempt network (.ok request) state = (e.judge exchange, next) := by
  rw [Endpoint.attempt, Endpoint.attemptWith, run_bind_of_run_eq followed]
  rfl

theorem ofBody_cases (body : Http.Body) :
    (∃ response, Response.ofBody body = .ok response) ∨
      ∃ message, Response.ofBody body = .error (.invalidResponse message) := by
  unfold Response.ofBody
  split
  · exact .inr ⟨_, rfl⟩
  · split
    · exact .inr ⟨_, rfl⟩
    · split
      · exact .inr ⟨_, rfl⟩
      · exact .inl ⟨_, rfl⟩

theorem settles_ofBody (body : Http.Body) : Settles (Response.ofBody body) := by
  rcases ofBody_cases body with ⟨response, read⟩ | ⟨message, unread⟩
  · rw [read]
    trivial
  · rw [unread]
    trivial

/-- An answer that cannot be used has the head of a success, and a body that is not whole or holds no
response. -/
theorem exists_judge_eq_invalidResponse_iff (e : Endpoint) (late : Bool) (stage : Http.Progress) :
    (∃ message, e.judge (stage.exchange late) = .error (.invalidResponse message)) ↔
      (∃ head, stage = .body head ∧ isSuccess head.status = true) ∨
        ∃ answer, stage = .complete answer ∧ isSuccess answer.status = true ∧
          ∀ response, Response.ofBody answer.body ≠ .ok response := by
  cases stage with
  | head => cases late <;> simp [Http.Progress.exchange, Endpoint.judge]
  | malformed => simp [Http.Progress.exchange, Endpoint.judge]
  | body head =>
    by_cases success : isSuccess head.status = true <;>
      simp [Http.Progress.exchange, Endpoint.judge, success, Response.ofBody, undecodable]
  | complete answer =>
    by_cases success : isSuccess answer.status = true
    · rcases ofBody_cases answer.body with ⟨response, read⟩ | ⟨message, unread⟩
      · simp [Http.Progress.exchange, Endpoint.judge, success, read]
      · simp [Http.Progress.exchange, Endpoint.judge, success, unread]
    · simp [Http.Progress.exchange, Endpoint.judge, success]

/-- The error of a request without a head: the time is over, or the connection. -/
def Endpoint.lost (e : Endpoint) (late : Bool) : BackendError :=
  if late then .timeout e.timeoutMs else .http (.unsendable e.destination)

theorem Endpoint.not_isPermanent_lost (e : Endpoint) (late : Bool) : ¬(e.lost late).IsPermanent := by
  cases late <;> exact not_false

/-- The beginning of an answer with a response, up to its head or into its body. -/
def begunHead : List UInt8 :=
  "HTTP/1.1 200 OK\r\nContent-Length: 42\r\n".toUTF8.toList

def openBody : List UInt8 :=
  "\x7b\"choices\":[".toUTF8.toList

def begunBody : List UInt8 :=
  begunHead ++ "\r\n".toUTF8.toList ++ openBody

def restOfBody : List UInt8 :=
  "\x7b\"message\":\x7b\"content\":\"hi\"\x7d\x7d]\x7d".toUTF8.toList

def twice : Endpoint :=
  ⟨"http://localhost", none, "model", 5000, 1, 1⟩

def posted : Http.Request :=
  .ofUrl { scheme := "http", host := some (.name "localhost"), path := "/chat/completions" } [] (some .null)

/-- A network on which the first answer is cut off and all others come in. The state is their number. -/
def cutOnce (late : Bool) (begun : List UInt8) (sent : Nat) (_ : Http.Request) : Http.Exchange × Nat :=
  (Http.reception (late && sent = 0) (if sent = 0 then begun else begunBody ++ restOfBody), sent + 1)

section
variable {σ : Type} {network : σ → Http.Request → Http.Exchange × σ} {left : Nat} {request : Http.Request}
  {state next : σ} {exchange ending : Http.Exchange}

theorem follow_of_settled (sent : network state request = (exchange, next))
    (settled : request.sequel left exchange = .settled ending) :
    Http.follow network left request state = (.ok ending, next) := by
  rw [Http.follow, Http.followWith, run_bind_of_run_eq (x := fun state => network state request) sent]
  generalize request.sequel left exchange = sequel at settled ⊢
  subst settled
  rfl

theorem sequel_of_status {answer : Http.Answer} (stays : Http.keepsContent? answer.status = none) :
    request.sequel left (.answered answer) = .settled (.answered answer) := by
  simp only [Http.Request.sequel, stays]

end

theorem cutOnce_zero (late : Bool) (begun : List UInt8) (request : Http.Request) :
    cutOnce late begun 0 request = (Http.reception late begun, 1) := by
  simp [cutOnce]

theorem reception_begunBody (late : Bool) : Http.reception late begunBody =
    .answered ⟨200, [⟨"content-length".toList, "42".toList⟩], .broken⟩ := by
  cases late <;> decide +kernel

theorem follow_cutOnce (late : Bool) :
    Http.follow (cutOnce late begunBody) Http.mostRedirects posted 0 =
      (.ok (Http.reception late begunBody), 1) := by
  apply follow_of_settled (cutOnce_zero late begunBody posted)
  rw [reception_begunBody]
  exact sequel_of_status rfl

/-- What an attempt comes to of which no more comes in than some bytes. Without a whole head it has failed in
a way that may pass, and is tried again while there are retries left. With the head of a success it settles
the request, as an answer that cannot be used if its body is not whole, just as if it cannot be read. The
beginning of a whole answer is in one of these stages, with the status of the answer. -/
theorem receptions_classified {σ : Type} (e : Endpoint)
    (network : σ → Http.Request → Http.Exchange × σ) (request : Http.Request) (state : σ) {k : Nat}
    {late : Bool} {bytes : List UInt8} (room : k ≤ e.maxRetries.toNat)
    (unsettled : ∀ i < k, ¬Settles (resultAt (e.attempt network (.ok request)) state i))
    (received : (Http.follow network Http.mostRedirects request
      (stateAfter (e.attempt network (.ok request)) state k)).1 = .ok (Http.reception late bytes)) :
    let attempt := e.attempt network (.ok request)
    let result := resultAt attempt state k
    let c := (converse e attempt state).1
    let stage := Http.progress (!late) bytes
    let reached := ∀ i < k, e.Fits i
    let retried := reached → k < e.maxRetries.toNat →
      (e.Fits k → k + 1 < c.attempts) ∧ (¬e.Fits k → c.result = .error {} ∧ c.attempts = k + 1)
    let ends := reached → c.result = .ok result ∧ c.attempts = k + 1
    (stage = .head → result = .error (e.lost late) ∧ retried) ∧
    (stage = .malformed → result = .error (e.lost false) ∧ retried) ∧
    (∀ head, stage = .body head → isSuccess head.status = true → result = .error undecodable ∧ ends) ∧
    (∀ answer, stage = .complete answer → isSuccess answer.status = true →
      result = Response.ofBody answer.body ∧ ends) ∧
    ((∃ message, result = .error (.invalidResponse message)) ↔
      (∃ head, stage = .body head ∧ isSuccess head.status = true) ∨
        ∃ answer, stage = .complete answer ∧ isSuccess answer.status = true ∧
          ∀ response, Response.ofBody answer.body ≠ .ok response) ∧
    ∀ rest answer, Http.progress true (bytes ++ rest) = .complete answer →
      stage = .head ∨
        (∃ head, stage = .body head ∧ head.status = answer.status ∧ head.headers = answer.headers) ∨
        ∃ body, stage = .complete ⟨answer.status, answer.headers, body⟩ := by
  intro attempt result c stage reached retried ends
  have settled (settles : Settles result) : ends := by
    intro waited
    obtain ⟨given, retried⟩ := converse_of_settles room waited unsettled settles
    exact ⟨given, retried.attempts⟩
  have judged : result = e.judge (stage.exchange late) :=
    congrArg Prod.fst (attempt_of_follow e (Prod.ext received rfl))
  refine ⟨?_, ?_, ?_, ?_, ?_, ?_⟩
  · intro start
    have failed : result = .error (e.lost late) := by
      rw [judged, start]
      cases late <;> rfl
    exact ⟨failed, fun waited => converse_of_error waited unsettled failed (e.not_isPermanent_lost late)⟩
  · intro strange
    have failed : result = .error (e.lost false) := by
      rw [judged, strange]
      rfl
    exact ⟨failed, fun waited => converse_of_error waited unsettled failed (e.not_isPermanent_lost false)⟩
  · intro head part success
    have broken : result = .error undecodable := by
      rw [judged, part]
      simp only [Http.Progress.exchange, Endpoint.judge, success, if_true, Response.ofBody]
    refine ⟨broken, settled ?_⟩
    rw [broken]
    trivial
  · intro answer whole success
    have read : result = Response.ofBody answer.body := by
      rw [judged, whole]
      simp only [Http.Progress.exchange, Endpoint.judge, success, if_true]
    refine ⟨read, settled ?_⟩
    rw [read]
    exact settles_ofBody answer.body
  · rw [judged]
    exact exists_judge_eq_invalidResponse_iff e late stage
  · intro rest answer whole
    exact Http.progress_of_part _ whole

/-- Answers that are cut off in their heads because the time is over, and in their bodies because the
connection is. -/
theorem receptions_classified_of_cutOnce :
    1 < (converse twice (twice.attempt (cutOnce true begunHead) (.ok posted)) 0).1.attempts ∧
      (converse twice (twice.attempt (cutOnce false begunBody) (.ok posted)) 0).1.attempts = 1 := by
  constructor
  · have hung : Http.reception true begunHead = .hung := by decide +kernel
    have received : Http.follow (cutOnce true begunHead) Http.mostRedirects posted 0 =
        (.ok (Http.reception true begunHead), 1) := by
      apply follow_of_settled (cutOnce_zero true begunHead posted)
      rw [hung]
      rfl
    obtain ⟨again, -⟩ := receptions_classified twice (cutOnce true begunHead) posted 0
      (Nat.zero_le _) (fun i below => absurd below (Nat.not_lt_zero i)) (congrArg Prod.fst received)
    obtain ⟨-, retried⟩ := again (by decide +kernel)
    exact (retried (fun i below => absurd below (Nat.not_lt_zero i)) (by decide)).1 (by decide)
  · obtain ⟨-, -, ends, -⟩ := receptions_classified twice (cutOnce false begunBody) posted 0
      (Nat.zero_le _) (fun i below => absurd below (Nat.not_lt_zero i))
      (congrArg Prod.fst (follow_cutOnce false))
    have part : Http.progress true begunBody =
        .body ⟨false, 200, [⟨"content-length".toList, "42".toList⟩]⟩ := by decide +kernel
    obtain ⟨-, last⟩ := ends _ part (by decide)
    exact (last fun i below => absurd below (Nat.not_lt_zero i)).2

/-- A request is given up with a retry left because the time, or else the connection, is over before the
body of the first answer is whole. A second attempt would have found a response. -/
theorem exists_cut_body_given_up :
    ∃ (e : Endpoint) (begun rest : List UInt8), 0 < e.maxRetries ∧
      (∃ answer, Http.progress true (begun ++ rest) = .complete answer ∧ isSuccess answer.status = true ∧
        ∃ response, Response.ofBody answer.body = .ok response) ∧
      ∀ late,
        let attempt := e.attempt (cutOnce late begun) (.ok posted)
        (converse e attempt 0).1.result = .ok (.error undecodable) ∧ (converse e attempt 0).1.attempts = 1 := by
  refine ⟨twice, begunBody, restOfBody, by decide, ?_, ?_⟩
  · refine ⟨⟨200, [⟨"content-length".toList, "42".toList⟩], .whole (openBody ++ restOfBody)⟩,
      by decide +kernel, by decide, ?_⟩
    have readable : (Response.ofBody (.whole (openBody ++ restOfBody))).toOption.isSome = true := by
      decide +kernel
    cases read : Response.ofBody (.whole (openBody ++ restOfBody)) with
    | ok response => exact ⟨response, rfl⟩
    | error error =>
      rw [read] at readable
      contradiction
  · intro late attempt
    have first : attempt 0 = (.error undecodable, 1) := by
      have judged : attempt 0 = (twice.judge (Http.reception late begunBody), 1) :=
        attempt_of_follow twice (follow_cutOnce late)
      rw [judged, reception_begunBody]
      rfl
    have settles : Settles (resultAt attempt 0 0) := by
      show Settles (attempt 0).1
      rw [first]
      trivial
    obtain ⟨given, alone⟩ := converse_of_settles (e := twice) (Nat.zero_le _)
      (fun i below => absurd below (Nat.not_lt_zero i))
      (fun i below => absurd below (Nat.not_lt_zero i)) settles
    exact ⟨given.trans (congrArg Except.ok (congrArg Prod.fst first)), alone.attempts⟩

end Chat

end Deliberation
