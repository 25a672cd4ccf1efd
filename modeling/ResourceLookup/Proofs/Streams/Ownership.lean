import ResourceLookup.Proofs.Streams.Opening

/-!
# Who closes a stream

A stream that is handed out stays open until its owner closes it, and a reader closes its stream
at the first of its own closings. What reads a stream on its own behalf closes it once, however
the reading ends, and so does a reader that cannot be made.
-/

namespace ResourceLookup

open Lookup

variable {α : Type} {w v v' : World} {e : Fault} {a : α} {closes : Nat}

namespace World

theorem Opens.streamAt (h : w.Opens closes v) :
    ∃ s, v.streams[w.streams.length]? = some s ∧ s.closes = closes := by
  obtain ⟨s, hs, hc⟩ := h
  exact ⟨s, by rw [hs, List.getElem?_concat_length], hc⟩

theorem Opens.of_streams (h : w.Opens closes v) (streams : v'.streams = v.streams) :
    w.Opens closes v' := by
  obtain ⟨s, hs, hc⟩ := h
  exact ⟨s, streams.trans hs, hc⟩

theorem Opens.set (h : w.Opens closes v) {s : Stream} (hs : s.closes = closes) :
    w.Opens closes { v with streams := v.streams.set w.streams.length s } := by
  obtain ⟨s₀, hs₀, -⟩ := h
  exact ⟨s, by simp [hs₀], hs⟩

theorem Opens.close (h : w.Opens closes v) :
    w.Opens (closes + 1)
      { v with streams := v.streams.modify w.streams.length Stream.close } := by
  obtain ⟨s, hs, hc⟩ := h
  exact ⟨s.close, by simp [hs, List.modify_eq_take_drop], by rw [Stream.close, hc]⟩

end World

/-! ## Reading and closing -/

theorem Stream.closes_read {s s' : Stream} {limit : Option Nat} {bs : Octets}
    (h : s.read limit = .ok (bs, s')) : s'.closes = s.closes := by
  unfold read at h
  split at h
  · cases h
  · split at h
    · cases h
    · cases limit <;> cases h <;> rfl

namespace Lookup

theorem stream_ok {id : StreamId} {s : Stream} (h : w.streams[id]? = some s) :
    stream id w = .ok s w := by
  rw [stream, get_bind_apply, h]
  rfl

theorem readStream_opens (h : w.Opens closes v) (limit : Option Nat) :
    w.Opens closes (after (readStream w.streams.length limit) v) := by
  obtain ⟨s, hs, hc⟩ := h.streamAt
  rw [after, readStream, bind_ok (stream_ok hs)]
  cases hread : s.read limit with
  | error e => exact h
  | ok p => exact h.set ((Stream.closes_read hread).trans hc)

theorem readStream_of_failing {id : StreamId} {s : Stream} {f : Fault}
    (held : v.streams[id]? = some s) (unclosed : s.isClosed = false) (failing : s.failing = some f) :
    readStream id none v = .error f v := by
  have hread : s.read none = .error f := by
    simp only [Stream.read, unclosed, Stream.exceeds, failing, Bool.false_eq_true, if_true, if_false]
  rw [readStream, bind_ok (stream_ok held), hread]
  rfl

theorem opens_bind {β : Type} {f : Lookup α} {k : α → Lookup β}
    (hf : w.Opens closes (after f v))
    (hk : ∀ a v', w.Opens closes v' → w.Opens closes (after (k a) v')) :
    w.Opens closes (after (f >>= k) v) := by
  rw [after]
  cases h : f v with
  | ok a v' =>
    rw [after_ok h] at hf
    rw [bind_ok h]
    exact hk a v' hf
  | error e v' =>
    rw [after_error h] at hf
    rwa [bind_error h]

theorem Still.opens {f : Lookup α} (hf : Still f) (h : w.Opens closes v) :
    w.Opens closes (after f v) :=
  h.of_streams (hf v)

theorem after_andThen (work : Lookup α) (finish : Lookup Unit) (v : World) :
    after (andThen work finish) v = after finish (after work v) := by
  simp only [after, andThen]
  cases hw : work v with
  | ok a v' => cases hf : finish v' <;> simp only [hf]
  | error e v' => cases hf : finish v' <;> simp only [hf]

theorem andThen_closeStream_error {work : Lookup α} (h : work v = .error e v') (id : StreamId) :
    ∃ u, andThen work (closeStream id) v = .error e u := by
  rw [andThen, h]
  exact ⟨_, rfl⟩

theorem onFault_log_error {work : Lookup α} (h : work v = .error e v') (about : Fault → Bool)
    (level : LogLevel) (message : Text) :
    ∃ u, onFault work about (log level message) v = .error e u := by
  rw [onFault, h]
  by_cases habout : about e = true
  · exact ⟨_, if_pos habout⟩
  · exact ⟨_, if_neg habout⟩

theorem onFault_ok {work : Lookup α} (h : work v = .ok a v') (about : Fault → Bool)
    (finish : Lookup Unit) : onFault work about finish v = .ok a v' := by
  simp only [onFault, h]

theorem after_onFault {work : Lookup α} {about : Fault → Bool} (h : work v = .error e v')
    (habout : about e = true) (finish : Lookup Unit) :
    after (onFault work about finish) v = after finish v' := by
  simp only [after, onFault, h, habout, if_true]
  cases finish v' <;> rfl

theorem onFault_opens {work : Lookup α} {about : Fault → Bool} {finish : Lookup Unit}
    (hw : w.Opens closes (after work v)) (hf : Still finish) :
    w.Opens closes (after (onFault work about finish) v) := by
  cases h : work v with
  | ok a v' =>
    rw [after_ok h] at hw
    rwa [after_ok (onFault_ok h about finish)]
  | error e v' =>
    rw [after_error h] at hw
    by_cases habout : about e = true
    · rw [after_onFault h habout]
      exact hf.opens hw
    · have hsame : onFault work about finish v = .error e v' := by
        simp only [onFault, h, if_neg habout]
      rwa [after_error hsame]

end Lookup

/-! ## Readers -/

inductive Reader.Use
  | read (limit : Option Nat)
  | readLine
  | close
  deriving DecidableEq, Repr

namespace Reader

def use (r : Reader) : Use → Lookup Reader
  | .read limit => do pure (← r.read limit).2
  | .readLine => do pure (← r.readLine).2
  | .close => r.close

def useAll (r : Reader) : List Use → Lookup Reader
  | [] => pure r
  | u :: us => do (← r.use u).useAll us

structure Owns (w : World) (r : Reader) (v : World) : Prop where
  stream : r.stream = w.streams.length
  opens : w.Opens (if r.isClosed then 1 else 0) v

theorem run_owns {r : Reader} (h : r.Owns w v)
    (f : OutsideDecoders → Option Fault → TextReader → Octets → TextReader.Outcome) :
    ∃ answer r' v', r.run f v = .ok (answer, r') v' ∧ r'.Owns w v' ∧ r'.isClosed = r.isClosed := by
  by_cases hr : r.isClosed = true
  · exact ⟨.error closedFault, r, v, by rw [run, if_pos hr]; rfl, h, rfl⟩
  · obtain ⟨s, hs, hc⟩ := h.opens.streamAt
    rw [← h.stream] at hs
    let out := f v.around.decoders s.failing r.characters s.rest
    refine ⟨out.answer, { r with characters := out.reader },
      { v with streams := v.streams.set r.stream { s with rest := out.rest } },
      by rw [run, if_neg hr, bind_ok (stream_ok hs)]; rfl, ⟨h.stream, ?_⟩, rfl⟩
    rw [h.stream]
    exact h.opens.set hc

theorem close_owns {r : Reader} (h : r.Owns w v) :
    ∃ r' v', r.close v = .ok r' v' ∧ r'.Owns w v' ∧ r'.isClosed = true := by
  by_cases hr : r.isClosed = true
  · exact ⟨r, v, by rw [close, if_pos hr]; rfl, h, hr⟩
  · refine ⟨{ r with isClosed := true }, _, by rw [close, if_neg hr]; rfl, ⟨h.stream, ?_⟩, rfl⟩
    have hopens := h.opens
    rw [if_neg hr] at hopens
    rw [h.stream]
    exact hopens.close

/-- Each use leaves the reader the owner of its stream, and only closing it closes it. -/
theorem use_owns {r : Reader} (h : r.Owns w v) (u : Use) :
    ∃ r' v', r.use u v = .ok r' v' ∧ r'.Owns w v' ∧
      r'.isClosed = (r.isClosed || decide (u = .close)) := by
  cases u with
  | read limit =>
    obtain ⟨answer, r', v', hrun, howns, hclosed⟩ : ∃ answer r' v',
        r.read limit v = .ok (answer, r') v' ∧ r'.Owns w v' ∧ r'.isClosed = r.isClosed := by
      cases limit with
      | none => exact run_owns h _
      | some n => exact run_owns h _
    exact ⟨r', v', by rw [use, bind_ok hrun]; rfl, howns, by simp [hclosed]⟩
  | readLine =>
    obtain ⟨answer, r', v', hrun, howns, hclosed⟩ := run_owns h TextReader.readLine
    refine ⟨r', v', ?_, howns, by simp [hclosed]⟩
    rw [use, readLine, bind_ok hrun]
    rfl
  | close =>
    obtain ⟨r', v', hclose, howns, hclosed⟩ := close_owns h
    exact ⟨r', v', hclose, howns, by simp [hclosed]⟩

theorem useAll_owns {r : Reader} (h : r.Owns w v) (uses : List Use) :
    ∃ r' v', r.useAll uses v = .ok r' v' ∧ r'.Owns w v' ∧
      r'.isClosed = (r.isClosed || decide (.close ∈ uses)) := by
  induction uses generalizing r v with
  | nil => exact ⟨r, v, rfl, h, by simp⟩
  | cons u us ih =>
    obtain ⟨r₁, v₁, huse, h₁, hclosed₁⟩ := use_owns h u
    obtain ⟨r', v', hall, howns, hclosed⟩ := ih h₁
    refine ⟨r', v', by rw [useAll, bind_ok huse, hall], howns, ?_⟩
    rw [hclosed, hclosed₁]
    simp [Bool.or_assoc, eq_comm]

end Reader

theorem Charset.lookupTextual_error {name : Text} (h : lookupTextual name = .error e) :
    e.isOrdinary = true := by
  simp only [lookupTextual, lookup] at h
  split at h
  case h_1 f hlookup =>
    cases h
    split at hlookup
    · cases hlookup
      exact Fault.isOrdinary_valueError _
    · split at hlookup
      · cases hlookup
        exact Fault.isOrdinary_unwritable _
      · split at hlookup <;> cases hlookup
        exact Fault.isOrdinary_lookupError _
  case h_2 c hlookup =>
    split at h <;> cases h
    exact Fault.isOrdinary_lookupError _

theorem TextReader.ofName_error {name : Option Text} (h : ofName name = .error e) :
    e.isOrdinary = true := by
  rw [ofName] at h
  cases hlookup : Charset.lookupTextual (name.getD defaultName) with
  | ok c =>
    rw [hlookup] at h
    cases h
  | error f =>
    rw [hlookup] at h
    cases h
    exact Charset.lookupTextual_error hlookup

namespace Access

variable {obtain : Lookup StreamId}

inductive HandsStream (w : World) : EStateM.Result Fault World StreamId → Prop
  | unobtained {e : Fault} {v : World} (streams : v.streams = w.streams) :
    HandsStream w (.error e v)
  | obtained {v : World} (opens : w.Opens 0 v) : HandsStream w (.ok w.streams.length v)

/-- How work ends that obtains a stream for itself: where it is given one, no other one was
opened, and that one was closed once, whether there is an answer or a fault. -/
inductive Releases {α : Type} (obtain : Lookup StreamId) (w : World) :
    EStateM.Result Fault World α → Prop
  | unobtained {e : Fault} {v : World} (fails : obtain w = .error e v)
    (streams : v.streams = w.streams) : Releases obtain w (.error e v)
  | answered {v v' : World} {a : α} (obtained : obtain w = .ok w.streams.length v)
    (opens : w.Opens 0 v) (released : w.Opens 1 v') : Releases obtain w (.ok a v')
  | failed {v v' : World} {e : Fault} (obtained : obtain w = .ok w.streams.length v)
    (opens : w.Opens 0 v) (released : w.Opens 1 v') : Releases obtain w (.error e v')

/-- How work ends that obtains a stream and hands a reader of it out. A reader that cannot be
made has its stream closed once. One that is made has it open, and from then on the stream is
closed once if the reader is closed at all, and else never. -/
inductive HandsReader (obtain : Lookup StreamId) (w : World) :
    EStateM.Result Fault World Reader → Prop
  | unobtained {e : Fault} {v : World} (fails : obtain w = .error e v)
    (streams : v.streams = w.streams) : HandsReader obtain w (.error e v)
  | unbuilt {v v' : World} {e : Fault} (obtained : obtain w = .ok w.streams.length v)
    (opens : w.Opens 0 v) (refusal : TextReader.ofName v.settings.currentCharset = .error e)
    (released : w.Opens 1 v') : HandsReader obtain w (.error e v')
  | built {v v' : World} {r : Reader} (obtained : obtain w = .ok w.streams.length v)
    (opens : w.Opens 0 v) (owned : r.stream = w.streams.length) (unclosed : r.isClosed = false)
    (kept : w.Opens 0 v')
    (uses : ∀ uses : List Reader.Use, ∃ r' u, r.useAll uses v' = .ok r' u ∧
      w.Opens (if .close ∈ uses then 1 else 0) u) : HandsReader obtain w (.ok r v')

theorem HandsStream.run_cases (h : HandsStream w (obtain w)) :
    (∃ e v, obtain w = .error e v ∧ v.streams = w.streams) ∨
      ∃ v, obtain w = .ok w.streams.length v ∧ w.Opens 0 v := by
  cases hrun : obtain w with
  | error e v =>
    rw [hrun] at h
    cases h with
    | unobtained streams => exact .inl ⟨e, v, rfl, streams⟩
  | ok id v =>
    rw [hrun] at h
    cases h with
    | obtained opens => exact .inr ⟨v, rfl, opens⟩

theorem closeStream_opens (h : w.Opens closes v) :
    w.Opens (closes + 1) (after (closeStream w.streams.length) v) := h.close

theorem Releases.of_after {k : Lookup α} {u : World}
    (obtained : obtain w = .ok w.streams.length u) (opens : w.Opens 0 u)
    (released : w.Opens 1 (after k v)) : Releases obtain w (k v) := by
  cases h : k v with
  | ok a v' =>
    rw [after_ok h] at released
    exact .answered obtained opens released
  | error e v' =>
    rw [after_error h] at released
    exact .failed obtained opens released

theorem releases_andThen {work : StreamId → Lookup α} (hobtain : HandsStream w (obtain w))
    (hwork : ∀ v, w.Opens 0 v → w.Opens 0 (after (work w.streams.length) v)) :
    Releases obtain w ((obtain >>= fun id => andThen (work id) (closeStream id)) w) := by
  rcases hobtain.run_cases with ⟨e, v, h, streams⟩ | ⟨v, h, opens⟩
  · rw [bind_error h]
    exact .unobtained h streams
  · rw [bind_ok h]
    refine .of_after h opens ?_
    rw [after_andThen]
    exact closeStream_opens (hwork v opens)

theorem releases_drain (hobtain : HandsStream w (obtain w)) :
    Releases obtain w ((obtain >>= drain) w) :=
  releases_andThen hobtain fun _ h => readStream_opens h none

theorem releases_drainProperties (hobtain : HandsStream w (obtain w)) (source : Text) :
    Releases obtain w ((obtain >>= fun id => drainProperties id source) w) := by
  refine releases_andThen hobtain fun v h => onFault_opens ?_ (Still.log _ _)
  exact opens_bind (readStream_opens h none) fun bs v' h' => (Still.answer _).opens h'

theorem ofStream_hands (obtained : obtain w = .ok w.streams.length v) (opens : w.Opens 0 v) :
    HandsReader obtain w (Reader.ofStream w.streams.length v) := by
  rw [Reader.ofStream, get_bind_apply]
  cases hmade : TextReader.ofName v.settings.currentCharset with
  | error e =>
    have hwork : ((do pure ⟨w.streams.length, ← answer (.error e),
        v.settings.currentCharset.getD TextReader.defaultName, false⟩) : Lookup Reader) v =
          .error e v := rfl
    rw [onFault, hwork]
    simp only [TextReader.ofName_error hmade, if_true]
    exact .unbuilt obtained opens hmade opens.close
  | ok t =>
    have howns : Reader.Owns w ⟨w.streams.length, t,
        v.settings.currentCharset.getD TextReader.defaultName, false⟩ v := ⟨rfl, opens⟩
    refine .built obtained opens rfl rfl opens fun uses => ?_
    obtain ⟨r', u, hall, howned, hclosed⟩ := Reader.useAll_owns howns uses
    refine ⟨r', u, hall, ?_⟩
    have hu := howned.opens
    rw [hclosed] at hu
    simpa using hu

theorem handsReader_ofStream (hobtain : HandsStream w (obtain w)) :
    HandsReader obtain w ((obtain >>= Reader.ofStream) w) := by
  rcases hobtain.run_cases with ⟨e, v, h, streams⟩ | ⟨v, h, opens⟩
  · rw [bind_error h]
    exact .unobtained h streams
  · rw [bind_ok h]
    exact ofStream_hands h opens

theorem drainReader_opens {r : Reader} (h : r.Owns w v) :
    w.Opens 1 (after (drainReader r) v) := by
  -- Where reading fails the reader is still there to be closed.
  obtain ⟨answer, r', v₁, hread, hread_owns, hread_closed⟩ : ∃ answer r' v₁,
      r.read none v = .ok (answer, r') v₁ ∧ r'.Owns w v₁ ∧ r'.isClosed = r.isClosed :=
    Reader.run_owns h TextReader.readAll
  have hwork : after (do Lookup.answer (← r.read none).1 : Lookup Text) v = v₁ := by
    rw [after, bind_ok hread]
    cases answer <;> rfl
  have h₁ : r.Owns w v₁ := ⟨h.stream, hread_closed ▸ hread_owns.opens⟩
  obtain ⟨r₂, v₂, hclose, hclose_owns, hclosed⟩ := Reader.close_owns h₁
  have hopens := hclose_owns.opens
  rw [if_pos hclosed] at hopens
  have hdiscard : discard r.close v₁ = .ok ⟨⟩ v₂ := by
    simp only [discard, Functor.discard, Functor.mapConst, EStateM.map, Function.comp, hclose]
  rw [drainReader, after_andThen, hwork, after_ok hdiscard]
  exact hopens

theorem releases_drainReader {obtainReader : Lookup Reader}
    (hobtain : HandsReader obtain w (obtainReader w)) :
    Releases obtain w ((obtainReader >>= drainReader) w) := by
  cases h : obtainReader w with
  | error e v =>
    rw [h] at hobtain
    rw [bind_error h]
    cases hobtain with
    | unobtained fails streams => exact .unobtained fails streams
    | unbuilt obtained opens _ released => exact .failed obtained opens released
  | ok r v =>
    rw [h] at hobtain
    rw [bind_ok h]
    cases hobtain with
    | built obtained opens owned unclosed kept _ =>
      refine .of_after obtained opens (drainReader_opens ⟨owned, ?_⟩)
      simpa [unclosed] using kept

/-! ## By name and by address -/

theorem getStream_hands (c : Along Resolver) (name : Text) (w : World) :
    HandsStream w (getStream c name w) := by
  have hopening := c.resolveStream_opening name w
  cases h : c.resolveStream name w with
  | error e v =>
    rw [h] at hopening
    rw [getStream, bind_error h]
    cases hopening with
    | failed streams => exact .unobtained streams
  | ok id? v =>
    rw [h] at hopening
    rw [getStream, bind_ok h]
    cases hopening with
    | silent streams => exact .unobtained streams
    | opened opens => exact .obtained opens

theorem getUrlStream_hands (url : Text) (w : World) : HandsStream w (getUrlStream url w) := by
  rw [getUrlStream, get_bind_apply]
  cases Url.openUrl w.around.tree w.around.cwd url w.around.outside with
  | ok p =>
    obtain ⟨v, hv, opens, -⟩ := openStream_opens (mediumOf p.1, p.2) w
    change HandsStream w (openStream (mediumOf p.1, p.2) w)
    rw [hv]
    exact .obtained opens
  | error f => cases f <;> exact .unobtained rfl

/-- For every chain, name, address and state, and so for every content and every setting of the
charset: what hands a stream or a reader out leaves the one stream that it obtained open, what
reads one on its own behalf has closed it once at its end, and a reader closes its stream once. -/
theorem closes_once (c : Along Resolver) (name url : Text) (w : World) :
    HandsStream w (getStream c name w) ∧
      HandsReader (getStream c name) w (getReader c name w) ∧
      Releases (getStream c name) w (getBytes c name w) ∧
      Releases (getStream c name) w (getText c name w) ∧
      Releases (getStream c name) w (getProperties c name w) ∧
      HandsStream w (getUrlStream url w) ∧
      HandsReader (getUrlStream url) w (getUrlReader url w) ∧
      Releases (getUrlStream url) w (getUrlProperties url w) := by
  have hstream := getStream_hands c name w
  have hurl := getUrlStream_hands url w
  have hreader : HandsReader (getStream c name) w (getReader c name w) :=
    handsReader_ofStream hstream
  exact ⟨hstream, hreader, releases_drain hstream, releases_drainReader hreader,
    releases_drainProperties hstream name, hurl, handsReader_ofStream hurl,
    releases_drainProperties hurl url⟩

theorem Releases.of_error {obtain : Lookup StreamId} {id : StreamId}
    {ends : EStateM.Result Fault World α}
    (h : Releases obtain w ends) (obtained : obtain w = .ok id v) (fails : ends = .error e v') :
    w.Opens 1 v' := by
  cases h with
  | unobtained hnone => cases hnone.symm.trans obtained
  | answered => cases fails
  | failed _ _ released =>
    cases fails
    exact released

/-- Where reading the obtained stream fails, octets and properties end in the fault of reading, with
the stream closed once. -/
theorem ends_of_failing {c : Along Resolver} {name : Text} {id : StreamId} {s : Stream} {f : Fault}
    (obtained : getStream c name w = .ok id v) (held : v.streams[id]? = some s)
    (unclosed : s.isClosed = false) (failing : s.failing = some f) :
    (∃ u, getBytes c name w = .error f u ∧ w.Opens 1 u) ∧
      ∃ u, getProperties c name w = .error f u ∧ w.Opens 1 u := by
  have hread := readStream_of_failing held unclosed failing
  have hstream := getStream_hands c name w
  constructor
  · obtain ⟨u, hu⟩ := andThen_closeStream_error hread id
    have hends : getBytes c name w = .error f u := (bind_ok obtained).trans hu
    exact ⟨u, hends, (releases_drain hstream).of_error obtained hends⟩
  · obtain ⟨u₁, hdecode⟩ := onFault_log_error (bind_error hread (k := fun bs =>
      answer (parseProperties name bs))) (·.isA "ValueError") .warning
      (text "Unable to decode " ++ name ++ text " as properties")
    obtain ⟨u, hu⟩ := andThen_closeStream_error hdecode id
    have hends : getProperties c name w = .error f u := (bind_ok obtained).trans hu
    exact ⟨u, hends, (releases_drainProperties hstream name).of_error obtained hends⟩

end Access
end ResourceLookup
