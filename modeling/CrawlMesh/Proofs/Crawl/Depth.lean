/-
# How deep the requests of a crawl lie

A request that is found on a page lies one deeper than the page.  On its way to the next page it may be
assigned to a member of the mesh and written to its wire, which its depth survives
(`depth_of_ofJson?`).  So a request lies as many links deeper than the one it descends from as there are
between them (`depth_of_descends`).

Depths have 32 bits, and nothing looks for the last one: an analysis that finds a request on a page at
the last depth breaks off, and nothing comes of the page at all.  It does so nowhere else.  A policy that
does not let requests lie there keeps all analyses whole (`Analyzer.depth_grows_below_last`).
-/
import CrawlMesh.Proofs.Crawl.Ending
import CrawlMesh.Proofs.Mesh.Requests

namespace CrawlMesh

set_option autoImplicit false

namespace Request

variable {page r back : Request} {k : Nat}

/-- A request that is read from what was written lies as deep. -/
theorem depth_of_ofJson? (l : Json.Layout) (read : ofJson? (l.json r.toJson) = some back) :
    back.depth = r.depth := by
  rw [ofJson?, toJson, Json.slots?_record l (by decide) rfl] at read
  simp only [List.map_cons, List.map_nil, Option.bind_eq_bind, Option.bind_some, Json.Slot.required,
    Json.asUInt32?_json, Option.bind_eq_some_iff] at read
  obtain ⟨_, -, _, -, _, -, _, -, _, -, _, -, _, -, _, -, same⟩ := read
  cases same
  rfl

/-- The request lies `k` links behind the page.  Between the links it is assigned to members and sent to
them. -/
inductive Descends (page : Request) : Nat → Request → Prop
  | itself : Descends page 0 page
  | found {k : Nat} {response : Response} {found : Yield} {r : Request} (a : Analyzer) :
      Descends page k response.request → a.analyze response = some found →
      .request r ∈ found.data → Descends page (k + 1) r
  | assigned {k : Nat} {r : Request} (node : String) :
      Descends page k r → Descends page k { r with nodeName := some node }
  | sent {k : Nat} {r back : Request} (l : Json.Layout) :
      Descends page k r → ofJson? (l.json r.toJson) = some back → Descends page k back

/-- **Depths count the links.** -/
theorem depth_of_descends (descends : Descends page k r) :
    r.depth.toNat = page.depth.toNat + k := by
  induction descends with
  | itself => rfl
  | found a _ done among ih =>
      obtain ⟨-, deeper, -⟩ := Analyzer.request_of_analyze done among
      rw [deeper, Response.depth_eq, ih, Nat.add_assoc]
  | assigned node _ ih => exact ih
  | sent l _ read ih => rwa [depth_of_ofJson? l read]

end Request

namespace Analyzer

/-- An analyzer that finds on every page a link to the page. -/
def reflecting : Analyzer := ⟨[fun response => ⟨[.request response.request], []⟩]⟩

theorem reflecting_breaks {response : Response} (valid : response.request.validate = .ok ())
    (last : response.depth.toNat + 1 = 2 ^ 32) : reflecting.analyze response = none :=
  analyze_eq_none_iff.mpr ⟨valid, last, _, List.mem_singleton_self _, _, List.mem_singleton_self _⟩

/-- **Depth grows by one from link to link, and an analysis breaks off at the last depth.**  Every
request that is found on a page lies one deeper than the page, as a natural number, and a request that
descends from the page lies as many links deeper as there are between them.  But an analysis gives nothing
at all just if the request of the page is valid and at the last depth, and a request is found on the page.
So all analyzers give something of a page exactly if it does not lie at the last depth or its request is
not valid.  No analysis breaks off of a page whose request passed a policy that does not reach to the last
depth. -/
theorem depth_grows_below_last (response : Response) :
    (∀ (a : Analyzer) (found : Yield) (r : Request), a.analyze response = some found →
      .request r ∈ found.data → r.depth.toNat = response.depth.toNat + 1) ∧
    (∀ (k : Nat) (r : Request), Request.Descends response.request k r →
      r.depth.toNat = response.depth.toNat + k) ∧
    (∀ a : Analyzer, a.analyze response = none ↔
      response.request.validate = .ok () ∧ response.depth.toNat + 1 = 2 ^ 32 ∧
        ∃ parser ∈ a.parsers, ∃ r, .request r ∈ (parser response).data) ∧
    ((∀ a : Analyzer, (a.analyze response).isSome) ↔
      response.depth.toNat + 1 < 2 ^ 32 ∨ response.request.validate ≠ .ok ()) ∧
    (∀ session : Session, session.policy.maxDepth.toNat + 1 < 2 ^ 32 →
      session.Passes response.request → ∀ a : Analyzer, (a.analyze response).isSome) := by
  have whole (a : Analyzer) (room : response.depth.toNat + 1 < 2 ^ 32) :
      (a.analyze response).isSome := by
    rw [Option.isSome_iff_ne_none]
    exact fun broken => Nat.ne_of_lt room (analyze_eq_none_iff.mp broken).2.1
  refine ⟨fun a found r done among => (request_of_analyze done among).2.1, fun k r descends => ?_,
    fun a => analyze_eq_none_iff, ⟨fun all => ?_, fun either a => ?_⟩,
    fun session bounded passes a => whole a ?_⟩
  · rw [Request.depth_of_descends descends, response.depth_eq]
  · by_contra neither
    obtain ⟨last, valid⟩ := not_or.mp neither
    have lt := response.depth.toNat_lt
    have breaks := reflecting_breaks (not_not.mp valid) (by omega)
    exact absurd (all reflecting) (by simp [breaks])
  · rcases either with room | refused
    · exact whole a room
    · rw [Option.isSome_iff_ne_none]
      exact fun broken => refused (analyze_eq_none_iff.mp broken).1
  · have le : response.request.depth.toNat ≤ session.policy.maxDepth.toNat := passes.depth_le
    rw [response.depth_eq]
    omega

/-- A request at the last depth. -/
def deepest : Request := { Scheduler.page "last" with depth := 4294967295 }

theorem deepest_readsBack : (Json.parse? deepest.toJson.render).bind Request.ofJson? = some deepest := by
  have sound : deepest.Sound := { Request.sound_ofUrl (Scheduler.page "last").url with }
  have plain : deepest.header.AllPlain := by
    simp [Header.AllPlain, deepest, Scheduler.page, Request.ofUrl, Header.empty]
  have exact : deepest.toJson.Exact :=
    Request.exact_toJson (by simp [deepest, Scheduler.page, Request.ofUrl, Json.Exact])
  have url : deepest.url.ReadsBack := rfl
  rw [Json.parse?_render exact, if_pos (by decide), Option.bind_some]
  exact Request.ofJson?_toJson sound url plain

/-- Two links behind the page that a usual crawl begins with, and none behind a page at the last depth. -/
theorem depth_grows_below_last_page : ∃ (session : Session) (finds more : Yield)
    (child grandchild : Request),
    Session.new .usual .usual = .ok session ∧ session.Passes (Scheduler.page "first") ∧
      reflecting.analyze (.of (Scheduler.page "first") 200 "") = some finds ∧
      .request child ∈ finds.data ∧ child.depth.toNat = 1 ∧
      reflecting.analyze (.of child 200 "") = some more ∧ .request grandchild ∈ more.data ∧
      grandchild.depth.toNat = 2 ∧ reflecting.analyze (.of deepest 200 "") = none := by
  obtain ⟨deeper, behind, -, -, passed⟩ := depth_grows_below_last (.of (Scheduler.page "first") 200 "")
  obtain ⟨-, -, breaks, -⟩ := depth_grows_below_last (.of deepest 200 "")
  obtain ⟨session, made, policy, domains⟩ : ∃ session, Session.new .usual .usual = .ok session ∧
      session.policy = .usual ∧ session.domains = [] := ⟨_, rfl, rfl, rfl⟩
  have passes : session.Passes (Scheduler.page "first") :=
    ⟨by decide, Or.inl domains, by rw [policy]; decide⟩
  obtain ⟨finds, done⟩ := Option.isSome_iff_exists.mp
    (passed session (by rw [policy]; decide) passes reflecting)
  obtain ⟨child, among⟩ : ∃ child, .request child ∈ finds.data := by
    cases done
    exact ⟨_, List.mem_singleton_self _⟩
  obtain ⟨more, again, grandchild, follows⟩ : ∃ more,
      reflecting.analyze (.of child 200 "") = some more ∧ ∃ r, .request r ∈ more.data := by
    cases done
    cases List.mem_singleton.mp among
    exact ⟨_, rfl, _, List.mem_singleton_self _⟩
  refine ⟨session, finds, more, child, grandchild, made, passes, done, among,
    deeper reflecting finds child done among, again, follows, ?_, ?_⟩
  · exact behind 2 grandchild (.found reflecting (.found reflecting .itself done among) again follows)
  · exact (breaks reflecting).mpr ⟨by decide, by decide, _, List.mem_singleton_self _, _,
      List.mem_singleton_self _⟩

/-- A request at the last depth is read from its text and passes a policy that lets it, but nothing comes
of its page if a link is found there, nor of the other finds. -/
theorem last_depth_breaks_off :
    (Json.parse? deepest.toJson.render).bind Request.ofJson? = some deepest ∧
      deepest.depth.toNat = 2 ^ 32 - 1 ∧
      ∃ session, Session.new ⟨some [], 4294967295⟩ .usual = .ok session ∧
        session.Passes deepest ∧ reflecting.analyze (.of deepest 200 "") = none ∧
        (reading (.of deepest 200 "")).data ≠ [] ∧
        analyze ⟨[reading]⟩ (.of deepest 200 "") = none := by
  obtain ⟨session, made, policy, domains⟩ : ∃ session,
      Session.new ⟨some [], 4294967295⟩ .usual = .ok session ∧
      session.policy = ⟨some [], 4294967295⟩ ∧ session.domains = [] := ⟨_, rfl, rfl, rfl⟩
  have passes : session.Passes deepest := ⟨by decide, Or.inl domains, by rw [policy]; decide⟩
  exact ⟨deepest_readsBack, by decide, session, made, passes, rfl, by decide, rfl⟩

end Analyzer

end CrawlMesh
