import FilterFleet.Proofs.Address.Segments
import FilterFleet.Proofs.Client.Destinations
import FilterFleet.Proofs.Client.Records

/-!
# The rules that requests are about

A call names what it is about by the segments of a path; those of a call about rules may end with a
domain or a pattern (`NodeCall.domain?`), which is any text. In every run of a client a request that
it sends with a session is the request of its call (`LoggedClient.asked_run`), so its path names just
these segments, unless the domain is a dot segment or holds a character that is dropped
(`LoggedWire.requests_name_rules`). A domain of dots alone is left out: such a request is about all
rules of the type and kind.
-/

namespace FilterFleet

open Address ClientLog WireLog NodeClient

/-! ## What calls name -/

/-- The domain or the pattern that the path of a call ends with, if there is one. -/
def NodeCall.domain? : NodeCall → Option String
  | ⟨.listRules, f⟩ => f.givenDomain?
  | ⟨.removeRule, r⟩ => some r.domain
  | _ => none

/-- The words that calls name things with, but for domains. -/
def words : List String :=
  ["queries", "auth", "dns", "blocking", "domains", "allow", "deny", "exact", "regex"]

theorem namesItself_of_mem_words {s : String} (h : s ∈ words) : NamesItself s := by
  have hall : ∀ s ∈ words, NamesItself s := by decide +kernel
  exact hall s h

theorem RuleType.text_mem_words (t : RuleType) : t.text ∈ words := by
  cases t <;> decide

theorem RuleKind.text_mem_words (k : RuleKind) : k.text ∈ words := by
  cases k <;> decide

/-- What a call names are words, and perhaps a domain behind them. -/
theorem NodeCall.segments_eq {call : NodeCall} {form : RequestForm} (h : call.form? = some form) :
    ∃ place, form.segments = place ++ call.domain?.toList ∧ ∀ s ∈ place, s ∈ words := by
  obtain ⟨kind, request⟩ := call
  cases kind <;> simp only [form?, Option.some.injEq, reduceCtorEq] at h <;> subst h
  case listRules =>
    refine ⟨"domains" :: ((request.type.map RuleType.text).toList ++
      (request.kind.map RuleKind.text).toList), rfl, fun s hs => ?_⟩
    simp only [List.mem_cons, List.mem_append, Option.mem_toList, Option.map_eq_some_iff] at hs
    rcases hs with rfl | ⟨t, -, rfl⟩ | ⟨k, -, rfl⟩
    · decide
    · exact t.text_mem_words
    · exact k.text_mem_words
  case addRules =>
    refine ⟨_, (List.append_nil _).symm, fun s hs => ?_⟩
    simp only [RuleAddition.segments, List.mem_cons, List.not_mem_nil, or_false] at hs
    rcases hs with rfl | rfl | rfl
    · decide
    · exact request.type.text_mem_words
    · exact request.kind.text_mem_words
  case removeRule =>
    refine ⟨["domains", request.type.text, request.kind.text], rfl, fun s hs => ?_⟩
    simp only [List.mem_cons, List.not_mem_nil, or_false] at hs
    rcases hs with rfl | rfl | rfl
    · decide
    · exact request.type.text_mem_words
    · exact request.kind.text_mem_words
  all_goals exact ⟨_, (List.append_nil _).symm, by simp [words]⟩

/-- A request is about what its call names. -/
structure HttpRequest.IsAbout (r : HttpRequest) (call : NodeCall) (form : RequestForm) : Prop where
  method : r.method = form.method
  body : r.body = form.body
  /-- The segments that its path names. -/
  names : r.url.Names (form.segments.foldl land ["api"])
  /-- They are those of the call just if a domain among them names itself. -/
  names_iff : r.url.Names ("api" :: form.segments) ↔ ∀ d ∈ call.domain?, NamesItself d
  /-- A domain of one or two dots is left out. -/
  dots : ∀ d ∈ call.domain?, d = "." ∨ d = ".." → r.url.Names ("api" :: form.segments.dropLast)

/-- A query makes no difference to what a path names. -/
theorem Address.Url.names_withPairs {u : Url} {pairs : List (String × String)}
    {segments : List String} : (u.withPairs pairs).Names segments ↔ u.Names segments := by
  have hpath : (u.withPairs pairs).path = u.path := by
    unfold withPairs
    split <;> rfl
  rw [Names, Names, hpath]

/-- The request of a call is about what the call names, at an address that is configured. -/
theorem RequestForm.isAbout_of_request {call : NodeCall} {form : RequestForm} {s : NodeSettings}
    {sid : String} {r : HttpRequest} (hform : call.form? = some form)
    (hplain : s.hostIsPlain = true) (h : form.request s sid = .ok r) : r.IsAbout call form := by
  obtain ⟨base, hbase, rfl⟩ := RequestForm.request_eq_ok h
  obtain ⟨host, -, rfl⟩ := NodeSettings.exists_host_of_baseAddress hplain hbase
  obtain ⟨place, hsegments, hwords⟩ := NodeCall.segments_eq hform
  have hplace : ∀ s ∈ place, NamesItself s := fun s hs => namesItself_of_mem_words (hwords s hs)
  have hnames : ((s.baseAt host).below form.segments).Names (form.segments.foldl land ["api"]) :=
    Url.names_below rfl form.segments
  have hiff : ((s.baseAt host).below form.segments).Names ("api" :: form.segments) ↔
      ∀ d ∈ call.domain?, NamesItself d := by
    rw [Url.names_below_iff rfl, hsegments]
    simp only [List.mem_append, Option.mem_toList, Option.mem_def]
    exact ⟨fun hall d hd => hall d (.inr hd), fun hall d hd => hd.elim (hplace d) (hall d)⟩
  have hdots : ∀ d ∈ call.domain?, d = "." ∨ d = ".." →
      ((s.baseAt host).below form.segments).Names ("api" :: form.segments.dropLast) := by
    intro d hd hdots
    have hland : form.segments.foldl land ["api"] = "api" :: form.segments.dropLast := by
      have hapi : "api" ≠ "" := by decide
      rw [hsegments, hd, Option.toList_some, List.foldl_append, List.foldl_cons, List.foldl_nil,
        land, if_pos hdots, (foldl_land_eq_iff hapi place).mpr hplace, List.dropLast_concat]
    exact hland ▸ hnames
  exact ⟨rfl, rfl, Url.names_withPairs.mpr hnames, Url.names_withPairs.trans hiff,
    fun d hd h => Url.names_withPairs.mpr (hdots d hd h)⟩

/-! ## Every run -/

/-- What a call sends is a login or its request. -/
theorem NodeClient.Advance.request_of_mem {c : NodeClient} {t : Moment} {e : ClientEvent}
    {l : LiveCall} {p : Progress l.call.kind} {sent : List HttpRequest}
    (h : c.Advance t e l p sent) {form : RequestForm}
    (hform : l.call.form? = some form) {r : HttpRequest} (hr : r ∈ sent) :
    l.snapshot.settings.login = .ok r ∨ ∃ sid, form.request l.snapshot.settings sid = .ok r := by
  cases h with
  | logsIn _ _ hlogin =>
    obtain rfl := List.mem_singleton.mp hr
    exact .inl hlogin
  | asks _ hform' hrequest =>
    obtain rfl := List.mem_singleton.mp hr
    obtain rfl := Option.some.inj (hform.symm.trans hform')
    exact .inr ⟨_, hrequest⟩
  | _ => cases hr

/-- A request with a session, for a call that is no logout, is the request of the call under the
settings with which it was started. -/
def ClientLog.AskedBy (first : NodeSettings) (log : ClientLog) (id : Nat) (r : HttpRequest) : Prop :=
  r.sid.isSome → ∀ call snapshot form, started? first log id = some (call, snapshot) →
    call.form? = some form → ∃ sid, form.request snapshot.settings sid = .ok r

theorem ClientLog.AskedBy.cons {first : NodeSettings} {log : ClientLog} {id : Nat} {r : HttpRequest}
    (h : AskedBy first log id r) {x : LogEntry} (hx : ∀ call, x.event ≠ .start id call) :
    AskedBy first (x :: log) id r :=
  fun hsid call snapshot form hstarted =>
    h hsid call snapshot form ((started?_cons hx).symm.trans hstarted)

/-- Every request that was sent at an entry of a log is what the call of the entry asks. -/
def LogEntry.Asked (first : NodeSettings) (x : LogEntry) (before : ClientLog) : Prop :=
  ∀ r ∈ x.sent, ∃ id, x.event.about? = some id ∧ ClientLog.AskedBy first (x :: before) id r

namespace LoggedClient

variable {settings : NodeSettings} {first : NodeClient} {s : LoggedClient}

theorem Recorded.asked (h : s.Recorded settings first) (t : Moment) (e : ClientEvent) :
    LogEntry.Asked settings ⟨t, e, (s.client.step t e).2⟩ s.log := by
  intro r hr
  obtain ⟨id, habout, -⟩ := h.consistent.directed t e r hr
  refine ⟨id, habout, fun hsid call snapshot form hstarted hform => ?_⟩
  have habandon : e ≠ .abandon id := by
    rintro rfl
    cases hr
  cases h.turn habout habandon hstarted (by simp [hform]) with
  | idle hstep =>
    rw [hstep] at hr
    cases hr
  | moved hid hadvance hcall =>
    have hstarted' := ((h.consistent.step t e).1.calls id _ hcall).started
    obtain ⟨rfl, rfl⟩ := Prod.mk.inj (Option.some.inj (hstarted.symm.trans hstarted'))
    refine (hadvance.request_of_mem hform hr).resolve_left fun hlogin => ?_
    rw [(NodeSettings.isLogin_of_login hlogin).sid] at hsid
    cases hsid

/-- So it is in every run. -/
theorem asked_run {options : ClientOptions} {c : NodeClient}
    (hnew : NodeClient.new? settings options = .ok c) (events : List (Moment × ClientEvent)) :
    Throughout (LogEntry.Asked settings) ((⟨c, []⟩ : LoggedClient).run events).log := by
  have hrecorded : Recorded settings c ⟨c, []⟩ := recorded_run hnew []
  exact hrecorded.run_induction (P := fun s => Throughout (LogEntry.Asked settings) s.log) trivial
    (fun s h hlog t e => ⟨h.asked t e, hlog⟩) events

end LoggedClient

namespace LoggedWire

/-- **Requests are about the rules that are meant, but for domains of dots.**  In every run of a
client on the wire every request with a session stems from one that the client has sent itself for a
call; unless an answer redirects, it is this request. If the call is no logout, and no character of
the host in its settings cuts the address, what the client has sent has the method and the body of
the call, and the segments that its path names are those of the call just if a domain among them is
not `.` or `..` and holds no tab and no line end. Otherwise they are those that `land` says: without
the domain, if it is `.` or `..`, so that the request is about all rules of the type and kind. -/
theorem requests_name_rules {settings : NodeSettings} {options : ClientOptions} {c : NodeClient}
    (hnew : NodeClient.new? settings options = .ok c) (events : List (Moment × WireEvent)) :
    let s := (fresh c).run events
    ∀ later x before, s.log = later ++ x :: before → ∀ r ∈ x.sent, r.sid.isSome →
      ∃ id origin call snapshot, x.StemsFrom id origin r ∧
        started? settings (told (x :: before)) id = some (call, snapshot) ∧
        ∀ form, call.form? = some form → snapshot.settings.hostIsPlain = true →
          origin.IsAbout call form := by
  intro s later x before hlog r hr hsid
  obtain ⟨id, origin, horigin, hstems⟩ := (stems_run c events).of_split hlog r hr
  obtain ⟨call, snapshot, hstarted, -⟩ := directs_of_exchange hnew hlog horigin
  have hasks : ClientLog.AskedBy settings (told (x :: before)) id origin :=
    holds_of_exchange (fun _ _ _ _ hx h => h.cons hx) (LoggedClient.asked_run hnew) hlog horigin
  refine ⟨id, origin, call, snapshot, hstems, hstarted, fun form hform hplain => ?_⟩
  obtain ⟨sid, hrequest⟩ :=
    hasks (hstems.follows.sid ▸ hsid) call snapshot form hstarted hform
  exact RequestForm.isAbout_of_request hform hplain hrequest

/-- A call that removes a rule logs in, and sends its request. -/
def removing (domain : String) : List (Moment × WireEvent) :=
  [(⟨0, ⟨0⟩⟩, .start 0 ⟨.removeRule, ⟨.deny, .regex, domain⟩⟩), (⟨1, ⟨1⟩⟩, .answer 0 200 none),
    (⟨2, ⟨2⟩⟩, .body 0 (loginAnswer "x" 60))]

/-- A pattern with a slash in it is named by one segment. -/
theorem requests_name_rules_of_pattern :
    let settings : NodeSettings := .basic ⟨1⟩ "a" "pi.lan" "one"
    let c : NodeClient := ⟨.standard, ⟨0, settings⟩, none, [], []⟩
    let pattern := "(^|\\.)ads/x$"
    NodeClient.new? settings .standard = .ok c ∧ NamesItself pattern ∧
      ∃ x before, ((fresh c).run (removing pattern)).log = x :: before ∧
        ∃ r ∈ x.sent, r.method = .delete ∧
          r.url.Names ["api", "domains", "deny", "regex", pattern] := by
  intro settings c pattern
  have hnew : NodeClient.new? settings .standard = .ok c := if_pos (by decide +kernel)
  have hself : NamesItself pattern := by decide +kernel
  have hlog : ∃ x before, ((fresh c).run (removing pattern)).log = x :: before ∧
      x.handling = .tell (.body 0 (loginAnswer "x" 60)) ∧
      started? settings (told (x :: before)) 0 =
        some (⟨.removeRule, ⟨.deny, .regex, pattern⟩⟩, ⟨0, settings⟩) ∧
      (x.sent.any fun r => r.sid.isSome) = true :=
    ⟨_, _, rfl, rfl, by decide +kernel, by decide +kernel⟩
  obtain ⟨x, before, hlog, hhandling, hstarted, hany⟩ := hlog
  obtain ⟨r, hr, hsid⟩ := List.any_eq_true.mp hany
  obtain ⟨id, origin, call, snapshot, hstems, hstarted', hall⟩ :=
    requests_name_rules hnew (removing pattern) [] x before hlog r hr hsid
  obtain ⟨rfl, habout⟩ := hstems.of_tell hhandling
  obtain rfl : 0 = id := Option.some.inj habout
  obtain ⟨rfl, rfl⟩ := Prod.mk.inj (Option.some.inj (hstarted.symm.trans hstarted'))
  have habouts := hall _ rfl (by decide +kernel)
  refine ⟨hnew, hself, x, before, hlog, r, hr, habouts.method,
    habouts.names_iff.mpr fun d hd => ?_⟩
  obtain rfl := Option.some.inj hd
  exact hself

/-- The pattern of one dot is left out: the request is for all patterns that deny. -/
theorem removal_names_all_rules :
    let settings : NodeSettings := .basic ⟨1⟩ "a" "pi.lan" "one"
    let c : NodeClient := ⟨.standard, ⟨0, settings⟩, none, [], []⟩
    let removal : RuleRemoval := ⟨.deny, .regex, "."⟩
    NodeClient.new? settings .standard = .ok c ∧
      ∃ x before, ((fresh c).run (removing ".")).log = x :: before ∧
        ∃ r ∈ x.sent, r.method = .delete ∧ r.sid = some "x" ∧
          r.url.text = "http://pi.lan/api/domains/deny/regex" ∧
          ¬ r.url.Names ("api" :: removal.segments) := by
  intro settings c removal
  have hlog : ∃ x before, ((fresh c).run (removing ".")).log = x :: before ∧
      (x.sent.any fun r => r.method == .delete && r.sid == some "x" &&
        r.url.text == "http://pi.lan/api/domains/deny/regex" &&
        r.url.path == (["api", "domains", "deny", "regex"].map encodeSegment)) = true :=
    ⟨_, _, rfl, by decide +kernel⟩
  obtain ⟨x, before, hlog, hany⟩ := hlog
  obtain ⟨r, hr, hsent⟩ := List.any_eq_true.mp hany
  simp only [Bool.and_eq_true, beq_iff_eq] at hsent
  obtain ⟨⟨⟨hmethod, hsid⟩, htext⟩, hpath⟩ := hsent
  refine ⟨if_pos (by decide +kernel), x, before, hlog, r, hr, hmethod, hsid, htext,
    fun hnames => ?_⟩
  have hlist : r.url.Names ["api", "domains", "deny", "regex"] := by
    rw [Url.Names, hpath, namedBytes_encoded]
  exact absurd (hnames.unique hlist) (by decide)

end LoggedWire

end FilterFleet
