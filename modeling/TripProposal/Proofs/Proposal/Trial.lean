import TripProposal.Proofs.Trip.Normalization
import TripProposal.Proposal.Render

/-!
# Proposals of advisors on trial

The plan that an advisor pays for decides about the watermark and about nothing else: two advisors
who differ in their plans get the same proposal, but for the mark in front of the last closing tag
of the body, or at the end of a page without one.
-/

namespace TripProposal

/-! ### Plans -/

/-- Whether two profiles differ in nothing but the plan. -/
def Profile.DifferInPlan (p q : Profile) : Prop :=
  { p with subscription := q.subscription } = q

/-- Stored profiles that differ in nothing but the section of the plan are read as such. -/
lemma Profile.differInPlan_ofFields {fields fields' : Fields}
    (h : ∀ key : Text, key ≠ "subscription" → Fields.get? key fields' = Fields.get? key fields) :
    DifferInPlan (.ofFields fields) (.ofFields fields') := by
  have hobject : ∀ key : Text, key ≠ "subscription" →
      Fields.objectAt key fields' = Fields.objectAt key fields := by
    intro key hkey
    rw [Fields.objectAt, Fields.objectAt, h key hkey]
  simp [DifferInPlan, Profile.ofFields, storedAs, h, hobject]

/-- Work goes on with what the work before it yields. -/
lemma Logged.outcome_bind_eq {ε α β : Type} (work : Logged ε α) (next : α → Logged ε β) :
    (work >>= next).outcome = work.outcome.bind fun a => (next a).outcome := by
  change (work.andThen next).outcome = _
  unfold Logged.andThen
  cases work.outcome <;> rfl

namespace Proposal

open Trip Template Calendar

/-! ### Where the watermark stands -/

/-- Whether a text is the closing tag of a body, in any letter case. -/
def IsBodyClose (tag : List CodePoint) : Prop :=
  tag.map CodePoint.toLower = bodyClose

/-- Whether a text holds a closing tag of a body. -/
def HasBodyClose (text : List CodePoint) : Prop :=
  ∃ before tag after, text = before ++ tag ++ after ∧ IsBodyClose tag

/-- A page with a mark in it, and nothing else added. -/
inductive Stamped (mark : List CodePoint) : List CodePoint → List CodePoint → Prop
  /-- The mark stands in front of the last closing tag. -/
  | beforeClose {before tag after : List CodePoint} (htag : IsBodyClose tag)
    (hlast : ¬ HasBodyClose (tag.tail ++ after)) :
    Stamped mark (before ++ tag ++ after) (before ++ mark ++ tag ++ after)
  /-- Without a closing tag the mark stands at the end. -/
  | atEnd {page : List CodePoint} (hnone : ¬ HasBodyClose page) : Stamped mark page (page ++ mark)

variable {c : CodePoint} {text rest before after : List CodePoint}

/-- The search for a closing tag looks for it in any letter case. -/
lemma startsWithBodyClose_iff :
    startsWithBodyClose text = true ↔ ∃ tag after, text = tag ++ after ∧ IsBodyClose tag := by
  rw [startsWithBodyClose, beq_iff_eq]
  constructor
  · exact fun h => ⟨_, _, (List.take_append_drop _ _).symm, h⟩
  · rintro ⟨tag, after, rfl, htag⟩
    have hlength : bodyClose.length = tag.length := by
      rw [← htag, List.length_map]
    rw [hlength, List.take_left]
    exact htag

lemma not_hasBodyClose_nil : ¬ HasBodyClose [] := by
  rintro ⟨before, tag, after, h, htag⟩
  obtain ⟨-, rfl, -⟩ : before = [] ∧ tag = [] ∧ after = [] := by simpa using h.symm
  cases htag

/-- A closing tag stands at the start of a text or behind it. -/
lemma hasBodyClose_cons : HasBodyClose (c :: rest) ↔
    startsWithBodyClose (c :: rest) = true ∨ HasBodyClose rest := by
  rw [startsWithBodyClose_iff]
  constructor
  · rintro ⟨before, tag, after, h, htag⟩
    cases before with
    | nil => exact .inl ⟨tag, after, h, htag⟩
    | cons d before => exact .inr ⟨before, tag, after, (List.cons.inj h).2, htag⟩
  · rintro (⟨tag, after, h, htag⟩ | ⟨before, tag, after, rfl, htag⟩)
    · exact ⟨[], tag, after, h, htag⟩
    · exact ⟨c :: before, tag, after, rfl, htag⟩

/-- The search fails where there is no closing tag. -/
lemma cutLastBodyClose?_eq_none_iff : cutLastBodyClose? text = none ↔ ¬ HasBodyClose text := by
  induction text with
  | nil => simp [cutLastBodyClose?, not_hasBodyClose_nil]
  | cons c rest ih =>
    rw [hasBodyClose_cons, not_or, ← ih, cutLastBodyClose?]
    cases cutLastBodyClose? rest with
    | some cut => simp
    | none => simp

/-- The last closing tag is found: it starts what is cut off, and no other one starts behind. -/
lemma of_cutLastBodyClose? (h : cutLastBodyClose? text = some (before, after)) :
    text = before ++ after ∧ ∃ tag rest, after = tag ++ rest ∧ IsBodyClose tag ∧
      ¬ HasBodyClose (tag.tail ++ rest) := by
  induction text generalizing before with
  | nil => cases h
  | cons c rest ih =>
    rw [cutLastBodyClose?] at h
    cases hrest : cutLastBodyClose? rest with
    | some cut =>
      obtain ⟨before', after'⟩ := cut
      rw [hrest] at h
      obtain ⟨rfl, rfl⟩ := Prod.mk.inj (Option.some.inj h)
      obtain ⟨rfl, htag⟩ := ih hrest
      exact ⟨rfl, htag⟩
    | none =>
      simp only [hrest] at h
      split at h
      · next hstarts =>
        obtain ⟨rfl, rfl⟩ := Prod.mk.inj (Option.some.inj h)
        obtain ⟨tag, behind, heq, htag⟩ := startsWithBodyClose_iff.mp hstarts
        refine ⟨rfl, tag, behind, heq, htag, ?_⟩
        cases tag with
        | nil => cases htag
        | cons d tag =>
          obtain ⟨-, rfl⟩ := List.cons.inj heq
          exact cutLastBodyClose?_eq_none_iff.mp hrest
      · cases h

/-- Inserting a mark stamps the page with it. -/
lemma stamped_insertMark (mark page : List CodePoint) :
    Stamped mark page (insertMark mark page) := by
  unfold insertMark
  cases hcut : cutLastBodyClose? page with
  | none => exact .atEnd (cutLastBodyClose?_eq_none_iff.mp hcut)
  | some cut =>
    obtain ⟨before, after⟩ := cut
    obtain ⟨rfl, tag, rest, rfl, htag, hlast⟩ := of_cutLastBodyClose? hcut
    have hstamped : Stamped mark (before ++ tag ++ rest) (before ++ mark ++ tag ++ rest) :=
      .beforeClose htag hlast
    simpa using hstamped

/-! ### Blindness to plans -/

/-- The page with the watermark, if the advisor is on trial. -/
def Page.marked (profile : Profile) (settings : Settings) (page : Page) : Page :=
  { page with
    html := withWatermark (some profile) settings page.html
    watermarked := isTrial (some profile) }

section Plans

variable (request : Request) (profile : Profile) (plan : Subscription)

/-- The plan does not take part in the choice of a template. -/
lemma templateFor_plan (options : Options) (document : Value) :
    templateFor options
        { request with profile := some { profile with subscription := plan } } document =
      templateFor options { request with profile := some profile } document := rfl

/-- Nor is it shown to templates. -/
lemma configFields_plan (trip : Fields) :
    configFields { request with profile := some { profile with subscription := plan } } trip =
      configFields { request with profile := some profile } trip := rfl

/-- So it does not take part in normalization. -/
lemma normalize_plan (matcher : NoticeMatcher) (now : Moment) (document : Value) :
    Trip.normalize { request with profile := some { profile with subscription := plan } } matcher
        now document =
      Trip.normalize { request with profile := some profile } matcher now document := by
  unfold Trip.normalize Workspace.normalize
  simp only [configFields_plan, Option.map_some]

end Plans

/-- The proposal for an advisor. -/
def proposalFor (registry : Registry) (options : Options) (request : Request) (now : Moment)
    (document : Value) (profile : Profile) : Except Fault Page :=
  (render registry options { request with profile := some profile } now document).outcome

variable (registry : Registry) (options : Options) (request : Request) (now : Moment)
  (document : Value)

/-- Whatever the plan, one draft of the page is marked or left as it is. -/
lemma exists_draft (profile : Profile) : ∃ draft : Except Fault Page, ∀ plan,
    proposalFor registry options request now document { profile with subscription := plan } =
      draft.map (Page.marked { profile with subscription := plan } request.settings) := by
  unfold proposalFor render
  dsimp only
  cases tripLabel? request.tripKey document with
  | none => exact ⟨.error (.trip .notAnObject), fun plan => rfl⟩
  | some label =>
    simp only [templateFor_plan, normalize_plan, Logged.outcome_bind_eq]
    cases ((registry.get (templateFor options { request with profile := some profile } document)
        options.scope).1.mapError Fault.unresolved).outcome with
    | error fault => exact ⟨.error fault, fun plan => rfl⟩
    | ok text =>
      cases ((Trip.normalize { request with profile := some profile }
          (keywordMatcher request.settings.noticeKeywords) now document).mapError
            Fault.trip).outcome with
      | error fault => exact ⟨.error fault, fun plan => rfl⟩
      | ok normalized =>
        dsimp only [Logged.report, Except.bind]
        cases ((Engine.render ⟨options.showsStructure, now⟩ text
            (.object normalized.data)).logged.mapError Fault.template).outcome with
        | error fault => exact ⟨.error fault, fun plan => rfl⟩
        | ok html =>
          exact ⟨.ok ⟨html, templateFor options { request with profile := some profile } document,
            normalized.repairs, false, normalized.workspace⟩, fun plan => rfl⟩

/-- An outcome is another one with a mark on its page: there is the same fault, or there is a page
of the same template, with the same repairs, that is stamped with the mark. -/
inductive AddsMark (mark : List CodePoint) : Except Fault Page → Except Fault Page → Prop
  | fault (fault : Fault) : AddsMark mark (.error fault) (.error fault)
  | page {page page' : Page} (hname : page.templateName = page'.templateName)
    (hrepairs : page.repairs = page'.repairs)
    (hhtml : Stamped mark page'.html.toList page.html.toList) : AddsMark mark (.ok page) (.ok page')

lemma isTrial_iff {profile : Profile} :
    profile.isTrial = true ↔ profile.subscription.tier = .text "trial" := by
  rw [Profile.isTrial, beq_iff_eq]
  cases profile.subscription.tier <;> simp [Value.text?]

lemma addsMark_of_differInPlan {p q : Profile} (h : p.DifferInPlan q)
    (hp : p.subscription.tier = .text "trial") (hq : q.subscription.tier ≠ .text "trial") :
    AddsMark (watermark request.settings).toList
      (proposalFor registry options request now document p)
      (proposalFor registry options request now document q) := by
  rw [← h] at hq ⊢
  obtain ⟨draft, hdraft⟩ := exists_draft registry options request now document p
  have htrial : isTrial (some p) = true := isTrial_iff.mpr hp
  have hpaid : isTrial (some { p with subscription := q.subscription }) = false := by
    rw [← Bool.not_eq_true]
    exact fun hq' => hq (isTrial_iff.mp hq')
  have hfirst := hdraft p.subscription
  rw [hdraft q.subscription, hfirst]
  cases draft with
  | error fault => exact .fault fault
  | ok page =>
    refine .page rfl rfl ?_
    simp only [Page.marked, withWatermark, htrial, hpaid, if_true, Bool.false_eq_true, if_false,
      Text.toList_ofList]
    exact stamped_insertMark _ _

/-- A trial adds the watermark and nothing else: for two advisors who differ in their plans there
is the same fault, or the page of the one on trial is the other's with the watermark at its place.
The profiles may be given or stored. -/
theorem trial_adds_watermark :
    (∀ p q : Profile, p.DifferInPlan q → p.subscription.tier = .text "trial" →
      q.subscription.tier ≠ .text "trial" →
      AddsMark (watermark request.settings).toList
        (proposalFor registry options request now document p)
        (proposalFor registry options request now document q)) ∧
    (∀ p q : Fields, (∀ key : Text, key ≠ "subscription" → Fields.get? key q = Fields.get? key p) →
      (Profile.ofFields p).subscription.tier = .text "trial" →
      (Profile.ofFields q).subscription.tier ≠ .text "trial" →
      AddsMark (watermark request.settings).toList
        (proposalFor registry options request now document (.ofFields p))
        (proposalFor registry options request now document (.ofFields q))) := by
  constructor
  · intro p q h hp hq
    exact addsMark_of_differInPlan registry options request now document h hp hq
  · intro p q h hp hq
    exact addsMark_of_differInPlan registry options request now document
      (Profile.differInPlan_ofFields h) hp hq

/-- A stored profile with the plan of the given name. -/
def storedPlan (tier : Text) : Fields :=
  [("name", .text "Ana"), ("subscription", .object [("tier", .text tier)])]

/-- A registry with a template whose body closes in capital letters. -/
def bodyRegistry : Registry :=
  ⟨.memory [("_templates/default", "<body>{{clientName}}</BODY>\n")], []⟩

/-- A page with a closing tag, for an advisor on trial and for one who pays. -/
theorem trial_adds_watermark_body :
    let now : Moment := .ofDate ⟨2026, 1, 1, by decide⟩
    let page := proposalFor bodyRegistry {} {} now (.object [("clientName", .text "Bo")])
    let paying : Profile := .ofFields (storedPlan "pro")
    AddsMark (watermark .packaged).toList
        (page { paying with subscription := ⟨.text "trial", .null⟩ }) (page paying) ∧
      AddsMark (watermark .packaged).toList (page (.ofFields (storedPlan "trial")))
        (page (.ofFields (storedPlan "pro"))) ∧
      (page paying).toOption.map (·.html) =
        some ("<body>Bo</BODY>\n" : Text) := by
  intro now page paying
  have hpaying : paying.subscription.tier ≠ .text "trial" := by
    intro heq
    exact absurd (Value.text.inj heq) (by decide)
  have hstored : ∀ key : Text, key ≠ "subscription" →
      Fields.get? key (storedPlan "pro") = Fields.get? key (storedPlan "trial") := by
    intro key hkey
    simp [storedPlan, Fields.get?, Ne.symm hkey]
  obtain ⟨hgiven, hread⟩ := trial_adds_watermark bodyRegistry {} {} now
    (.object [("clientName", .text "Bo")])
  refine ⟨hgiven _ paying rfl rfl hpaying, hread _ _ hstored rfl hpaying, ?_⟩
  decide +kernel

end Proposal

end TripProposal
