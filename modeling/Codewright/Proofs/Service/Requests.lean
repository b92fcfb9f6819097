import Codewright.Proofs.Json.Written
import Codewright.Service.Http

/-!
# What a request asks for

The ids in a call stand in the path of its request as they are, with words and slashes between them.
A request therefore tells which call it makes, with one exception: a conversation id that goes on
behind another one, with a slash and the word for what is generated there, leads to what the other
conversation has.
-/

namespace Codewright.Service

/-! ## Texts with slashes -/

/-- Where one text goes on behind a slash and the other one with a word between slashes, they end at
the same place, or one of them goes on where the other one ends. -/
theorem append_slash_cases {word c d g r : List Char} (hword : '/' ∉ word)
    (h : c ++ '/' :: (word ++ '/' :: g) = d ++ '/' :: r) :
    (c = d ∧ word ++ '/' :: g = r) ∨
      (∃ z, d ++ ['/'] = c ++ '/' :: (word ++ '/' :: z) ∧ g = z ++ r) ∨
      ∃ x, c = d ++ '/' :: x ∧ r = x ++ '/' :: (word ++ '/' :: g) := by
  rcases List.append_eq_append_iff.mp h with ⟨rest, rfl, hrest⟩ | ⟨rest, rfl, hrest⟩
  · cases rest with
    | nil => exact .inl ⟨(List.append_nil c).symm, (List.cons.inj hrest).2⟩
    | cons first rest =>
        obtain ⟨rfl, hbehind⟩ := List.cons.inj hrest
        refine .inr (.inl ?_)
        rcases List.append_eq_append_iff.mp hbehind with ⟨more, rfl, hmore⟩ | ⟨more, rfl, hmore⟩
        · cases more with
          | nil => exact ⟨[], by simp, (List.cons.inj hmore).2⟩
          | cons second more =>
              obtain ⟨rfl, rfl⟩ := List.cons.inj hmore
              exact ⟨more ++ ['/'], by simp, by simp⟩
        · cases more with
          | nil => exact ⟨[], by simp, (List.cons.inj hmore).2.symm⟩
          | cons second more =>
              obtain ⟨rfl, -⟩ := List.cons.inj hmore
              exact absurd (List.mem_append_right rest (.head more)) hword
  · cases rest with
    | nil => exact .inl ⟨List.append_nil d, (List.cons.inj hrest).2.symm⟩
    | cons first rest =>
        obtain ⟨rfl, rfl⟩ := List.cons.inj hrest
        exact .inr (.inr ⟨rest, rfl, rfl⟩)

/-- Where an id goes on with what was generated for it, another id that goes on behind a slash is
the same one, or one of them leads on from the other. -/
theorem generated_cases {c d g r : String} (h : c ++ "/code-generations/" ++ g = d ++ "/" ++ r) :
    (c = d ∧ "code-generations/" ++ g = r) ∨
      (∃ z, d ++ "/" = c ++ "/code-generations/" ++ z ∧ g = z ++ r) ∨
      ∃ x, c = d ++ "/" ++ x ∧ r = x ++ "/code-generations/" ++ g := by
  have hword : '/' ∉ "code-generations".toList := by decide +kernel
  have hlists : c.toList ++ '/' :: ("code-generations".toList ++ '/' :: g.toList) =
      d.toList ++ '/' :: r.toList := by
    have htexts := congrArg String.toList h
    simpa using htexts
  rcases append_slash_cases hword hlists with ⟨hc, hr⟩ | ⟨z, hd, hg⟩ | ⟨x, hc, hr⟩
  · refine .inl ⟨String.toList_inj.mp hc, String.toList_inj.mp ?_⟩
    simpa using hr
  · refine .inr (.inl ⟨String.ofList z, String.toList_inj.mp ?_, String.toList_inj.mp ?_⟩)
    · simpa using hd
    · simpa using hg
  · refine .inr (.inr ⟨String.ofList x, String.toList_inj.mp ?_, String.toList_inj.mp ?_⟩)
    · simpa using hc
    · simpa using hr

theorem urlBelow_inj {endpoint p q : String} (h : urlBelow endpoint p = urlBelow endpoint q) :
    p = q :=
  (String.append_right_inj _).mp h

theorem conversationPath_append_inj {c d rest : String}
    (h : conversationPath c ++ rest = conversationPath d ++ rest) : c = d :=
  (String.append_right_inj _).mp ((String.append_left_inj _).mp h)

/-! ## Calls that pose as others -/

namespace Call

/-- Whether a call is about a conversation, and not the transfer of an archive. -/
def isConversational : Call → Bool
  | upload _ _ _ _ => false
  | _ => true

/-- A call for a conversation whose id leads on to what was generated for another one. It asks for
what the second call asks for. -/
inductive Poses : Call → Call → Prop where
  | status {outer inner between id : String} :
      inner ++ "/" = outer ++ "/code-generations/" ++ between →
      Poses (getCodeGeneration inner id)
        (getCodeGeneration outer (between ++ "code-generations/" ++ id))
  | archive {outer inner between : String} :
      inner ++ "/" = outer ++ "/code-generations/" ++ between →
      Poses (exportResult inner) (getCodeGeneration outer (between ++ "result-archive"))

/-- Whether two requests to an endpoint have the same method, URL and content. -/
structure SameRequest (endpoint : String) (a b : Call) : Prop where
  method : (a.request endpoint).method = (b.request endpoint).method
  url : (a.request endpoint).url = (b.request endpoint).url
  body : (a.request endpoint).body = (b.request endpoint).body

variable {endpoint c d checksum uploadId text id : String} {message : Option String} {a b : Call}

theorem SameRequest.refl (endpoint : String) (a : Call) : SameRequest endpoint a a :=
  ⟨rfl, rfl, rfl⟩

theorem SameRequest.symm (h : SameRequest endpoint a b) : SameRequest endpoint b a :=
  ⟨h.method.symm, h.url.symm, h.body.symm⟩

theorem path_of_leads {outer inner between rest tail : String}
    (h : inner ++ "/" = outer ++ "/code-generations/" ++ between) (htail : tail = "/" ++ rest) :
    conversationPath inner ++ tail =
      conversationPath outer ++ "/code-generations/" ++ (between ++ rest) := by
  have hbehind : inner ++ tail = outer ++ "/code-generations/" ++ (between ++ rest) := by
    calc inner ++ tail
      _ = inner ++ "/" ++ rest := by rw [htail, String.append_assoc]
      _ = outer ++ "/code-generations/" ++ between ++ rest := by rw [h]
      _ = outer ++ "/code-generations/" ++ (between ++ rest) := String.append_assoc
  simp only [conversationPath, String.append_assoc] at hbehind ⊢
  rw [hbehind]

theorem Poses.sameRequest (h : a.Poses b) (endpoint : String) : SameRequest endpoint a b := by
  cases h with
  | @status outer inner between id h =>
      have htail : "/code-generations/" ++ id = "/" ++ ("code-generations/" ++ id) := by
        rw [← String.append_assoc]
        rfl
      have hpath := path_of_leads h htail
      refine ⟨rfl, congrArg (urlBelow endpoint) ?_, rfl⟩
      rwa [String.append_assoc, @String.append_assoc between]
  | archive h => exact ⟨rfl, congrArg (urlBelow endpoint) (path_of_leads h rfl), rfl⟩

/-! ## Requests that send something -/

theorem content_inj {j k : Json} (h : Http.Body.json j.render = .json k.render) : j = k :=
  Json.render_injective (Http.Body.json.inj h)

theorem eq_of_sameRequest_createConversation (hb : b.isConversational)
    (h : SameRequest endpoint createConversation b) : createConversation = b := by
  cases b with
  | createConversation => rfl
  | createUploadUrl | generatePlan | startCodeGeneration => cases content_inj h.body
  | upload => cases hb
  | getCodeGeneration | exportResult => cases h.method

theorem eq_of_sameRequest_createUploadUrl (hb : b.isConversational)
    (h : SameRequest endpoint (createUploadUrl c checksum) b) : createUploadUrl c checksum = b := by
  cases b with
  | createUploadUrl d checksum' =>
      obtain rfl := conversationPath_append_inj (urlBelow_inj h.url)
      cases content_inj h.body
      rfl
  | createConversation | generatePlan | startCodeGeneration =>
      simpa [Message.toJson] using content_inj h.body
  | upload => cases hb
  | getCodeGeneration | exportResult => cases h.method

theorem plan_ne_generations (c d : String) :
    conversationPath c ++ "/plan" ≠ conversationPath d ++ "/code-generations" := by
  intro h
  have hlast := congrArg (fun s => s.toList.getLast?) h
  simp [List.getLast?_append] at hlast

theorem eq_of_sameRequest_generatePlan (hb : b.isConversational)
    (h : SameRequest endpoint (generatePlan c uploadId text) b) :
    generatePlan c uploadId text = b := by
  cases b with
  | generatePlan d uploadId' text' =>
      obtain rfl := conversationPath_append_inj (urlBelow_inj h.url)
      cases content_inj h.body
      rfl
  | startCodeGeneration d => exact absurd (urlBelow_inj h.url) (plan_ne_generations c d)
  | createConversation | createUploadUrl => simpa [Message.toJson] using content_inj h.body
  | upload => cases hb
  | getCodeGeneration | exportResult => cases h.method

theorem eq_of_sameRequest_startCodeGeneration (hb : b.isConversational)
    (h : SameRequest endpoint (startCodeGeneration c uploadId message) b) :
    startCodeGeneration c uploadId message = b := by
  cases b with
  | startCodeGeneration d uploadId' message' =>
      obtain rfl := conversationPath_append_inj (urlBelow_inj h.url)
      have hcontent := content_inj h.body
      cases message with
      | none => cases message' <;> cases hcontent; rfl
      | some text => cases message' <;> cases hcontent; rfl
  | generatePlan d => exact absurd (urlBelow_inj h.url).symm (plan_ne_generations d c)
  | createConversation | createUploadUrl => simpa [Message.toJson] using content_inj h.body
  | upload => cases hb
  | getCodeGeneration | exportResult => cases h.method

/-! ## Requests that ask for something -/

theorem generated_eq {rest : String}
    (h : conversationPath c ++ "/code-generations/" ++ id = conversationPath d ++ "/" ++ rest) :
    c ++ "/code-generations/" ++ id = d ++ "/" ++ rest := by
  simp only [conversationPath, String.append_assoc] at h ⊢
  exact (String.append_right_inj _).mp h

theorem not_longer_both {x y : String} (hc : c = d ++ "/" ++ x) (hd : d = c ++ "/" ++ y) :
    False := by
  have hslash : "/".length = 1 := rfl
  have hlength := congrArg String.length hc
  have hlength' := congrArg String.length hd
  simp only [String.length_append] at hlength hlength'
  omega

theorem generations_append (c id : String) :
    c ++ "/code-generations/" ++ id = c ++ "/" ++ ("code-generations/" ++ id) := by
  have hword : "/code-generations/" = "/" ++ "code-generations/" := rfl
  rw [hword, ← String.append_assoc, ← String.append_assoc]

theorem poses_of_leads {id' z : String} (h : d ++ "/" = c ++ "/code-generations/" ++ z)
    (hid : id = z ++ ("code-generations/" ++ id')) :
    Poses (getCodeGeneration d id') (getCodeGeneration c id) := by
  rw [hid, ← String.append_assoc]
  exact .status h

theorem eq_or_poses_getCodeGeneration {id' : String}
    (h : SameRequest endpoint (getCodeGeneration c id) (getCodeGeneration d id')) :
    getCodeGeneration c id = getCodeGeneration d id' ∨
      Poses (getCodeGeneration c id) (getCodeGeneration d id') ∨
      Poses (getCodeGeneration d id') (getCodeGeneration c id) := by
  have hpath : conversationPath c ++ "/code-generations/" ++ id =
      conversationPath d ++ "/code-generations/" ++ id' := urlBelow_inj h.url
  have hthere := generated_eq (hpath.trans (generations_append _ _))
  have hback := generated_eq (hpath.symm.trans (generations_append _ _))
  rcases generated_cases hthere with ⟨rfl, hid⟩ | ⟨z, hd, hid⟩ | ⟨x, hc, -⟩
  · rw [(String.append_right_inj _).mp hid]
    exact .inl rfl
  · exact .inr (.inr (poses_of_leads hd hid))
  · rcases generated_cases hback with ⟨rfl, hid⟩ | ⟨z, hc, hid⟩ | ⟨y, hd, -⟩
    · rw [(String.append_right_inj _).mp hid]
      exact .inl rfl
    · exact .inr (.inl (poses_of_leads hc hid))
    · exact (not_longer_both hc hd).elim

theorem poses_exportResult (h : SameRequest endpoint (getCodeGeneration c id) (exportResult d)) :
    Poses (exportResult d) (getCodeGeneration c id) := by
  have hpath : conversationPath c ++ "/code-generations/" ++ id =
      conversationPath d ++ "/" ++ "result-archive" := by
    rw [@String.append_assoc _ "/"]
    exact urlBelow_inj h.url
  rcases generated_cases (generated_eq hpath) with ⟨-, hword⟩ | ⟨z, hd, rfl⟩ | ⟨x, -, hword⟩
  · have hfirst := congrArg (fun s => s.toList.head?) hword
    simp at hfirst
  · exact .archive hd
  · have hslash : '/' ∈ "result-archive".toList := by
      rw [hword]
      simp
    exact absurd hslash (by decide +kernel)

theorem slash_mem_of_leads {outer inner between : String}
    (h : inner ++ "/" = outer ++ "/code-generations/" ++ between) : '/' ∈ inner.toList := by
  have hlists : inner.toList ++ ['/'] =
      outer.toList ++ '/' :: ("code-generations/".toList ++ between.toList) := by
    have htexts := congrArg String.toList h
    simpa using htexts
  have hinner : inner.toList = (inner.toList ++ ['/']).dropLast := List.dropLast_concat.symm
  rw [hinner, hlists, List.dropLast_append_of_ne_nil (List.cons_ne_nil _ _),
    List.dropLast_cons_of_ne_nil (by simp)]
  exact List.mem_append_right _ (.head _)

/-- The conversation that a call is about. -/
def conversation? : Call → Option String
  | createConversation | upload _ _ _ _ => none
  | createUploadUrl conversation _ | generatePlan conversation _ _
  | startCodeGeneration conversation _ _ | getCodeGeneration conversation _
  | exportResult conversation => some conversation

theorem Poses.slash_mem (h : a.Poses b) : ∃ inner ∈ a.conversation?, '/' ∈ inner.toList := by
  cases h with
  | status h | archive h => exact ⟨_, rfl, slash_mem_of_leads h⟩

theorem eq_or_poses_of_sameRequest (ha : a.isConversational) (hb : b.isConversational)
    (h : SameRequest endpoint a b) : a = b ∨ a.Poses b ∨ b.Poses a := by
  cases a with
  | createConversation => exact .inl (eq_of_sameRequest_createConversation hb h)
  | createUploadUrl => exact .inl (eq_of_sameRequest_createUploadUrl hb h)
  | generatePlan => exact .inl (eq_of_sameRequest_generatePlan hb h)
  | startCodeGeneration => exact .inl (eq_of_sameRequest_startCodeGeneration hb h)
  | upload => cases ha
  | getCodeGeneration c id =>
      cases b with
      | getCodeGeneration => exact eq_or_poses_getCodeGeneration h
      | exportResult => exact .inr (.inr (poses_exportResult h))
      | upload => cases hb
      | createConversation | createUploadUrl | generatePlan | startCodeGeneration =>
          cases h.method
  | exportResult c =>
      cases b with
      | getCodeGeneration => exact .inr (.inl (poses_exportResult h.symm))
      | exportResult =>
          obtain rfl := conversationPath_append_inj (urlBelow_inj h.url)
          exact .inl rfl
      | upload => cases hb
      | createConversation | createUploadUrl | generatePlan | startCodeGeneration =>
          cases h.method

/-- Where no conversation id has a slash, a request tells which call it is. -/
theorem eq_of_sameRequest (ha : a.isConversational) (hb : b.isConversational)
    (hplain : ∀ c ∈ a.conversation?, '/' ∉ c.toList)
    (hplain' : ∀ c ∈ b.conversation?, '/' ∉ c.toList) (h : SameRequest endpoint a b) : a = b := by
  rcases eq_or_poses_of_sameRequest ha hb h with rfl | hposes | hposes
  · rfl
  · obtain ⟨c, hc, hslash⟩ := hposes.slash_mem
    exact absurd hslash (hplain c hc)
  · obtain ⟨c, hc, hslash⟩ := hposes.slash_mem
    exact absurd hslash (hplain' c hc)

/-- The request of a call about a conversation tells which call it is, with all its arguments,
unless a conversation id leads on to what was generated for another conversation. -/
theorem request_identifies (endpoint : String) (a b : Call) (ha : a.isConversational)
    (hb : b.isConversational) :
    SameRequest endpoint a b ↔ a = b ∨ a.Poses b ∨ b.Poses a := by
  constructor
  · exact eq_or_poses_of_sameRequest ha hb
  · rintro (rfl | h | h)
    · exact SameRequest.refl endpoint a
    · exact h.sameRequest endpoint
    · exact (h.sameRequest endpoint).symm

/-- The archive of a conversation is asked for with another request than a job of it. -/
theorem request_identifies_archive :
    (getCodeGeneration "c-1" "g").isConversational ∧ (exportResult "c-1").isConversational ∧
      ¬ SameRequest "https://jobs" (getCodeGeneration "c-1" "g") (exportResult "c-1") := by
  refine ⟨rfl, rfl, fun h => ?_⟩
  rcases (request_identifies "https://jobs" _ _ rfl rfl).mp h with heq | hposes | hposes
  · cases heq
  · obtain ⟨c, hc, hslash⟩ := hposes.slash_mem
    cases hc
    exact absurd hslash (by decide +kernel)
  · obtain ⟨c, hc, hslash⟩ := hposes.slash_mem
    cases hc
    exact absurd hslash (by decide +kernel)

/-- Two jobs that are asked after with the same request. -/
theorem requests_meet :
    getCodeGeneration "a" "x/code-generations/y" ≠ getCodeGeneration "a/code-generations/x" "y" ∧
      SameRequest "https://jobs" (getCodeGeneration "a" "x/code-generations/y")
        (getCodeGeneration "a/code-generations/x" "y") := by
  refine ⟨fun h => ?_, rfl, rfl, rfl⟩
  have hids := (Call.getCodeGeneration.inj h).1
  exact absurd hids (by decide +kernel)

end Call

end Codewright.Service
