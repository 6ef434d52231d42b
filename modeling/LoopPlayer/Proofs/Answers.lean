import LoopPlayer.Proofs.LongNumerals

/-! What requests are answered. A post is refused exactly when its member is missing or of another
kind, and nothing but a string passes for the name of a control, though names are compared as text:
no number, list or object is written as one. What is refused leaves the player and its scheduler as
they were, and what is done is answered with the status after it. Two things can come between: an
operation that raises, and an answer that cannot be written. -/
namespace LoopPlayer

def isNumeric (c : Char) : Bool := c.isDigit || ['-', '+', '.', 'e', 'i', 'n', 'f', 'a'].contains c

def Numeric (text : String) : Prop := text.toList.all isNumeric

namespace Numeric

theorem append {a b : String} (first : Numeric a) (second : Numeric b) : Numeric (a ++ b) := by
  rw [Numeric, String.toList_append, List.all_append, first, second, Bool.and_self]

theorem ite {a b : String} (condition : Prop) [Decidable condition] (first : Numeric a)
    (second : Numeric b) : Numeric (if condition then a else b) := by
  split
  · exact first
  · exact second

theorem ofSubset {text : String} (numeric : Numeric text) {chars : List Char}
    (inside : chars ⊆ text.toList) : Numeric (String.ofList chars) := by
  rw [Numeric, String.toList_ofList]
  exact List.all_eq_true.mpr fun c member => List.all_eq_true.mp numeric c (inside member)

theorem ofDigits {chars : List Char} (all : ∀ c ∈ chars, c.isDigit) :
    Numeric (String.ofList chars) := by
  rw [Numeric, String.toList_ofList]
  exact List.all_eq_true.mpr fun c member => Bool.or_eq_true_iff.mpr (.inl (all c member))

theorem ofNat (n : Nat) : Numeric (toString n) := by
  rw [Nat.toString_eq_ofList_toDigits]
  exact ofDigits fun c member => Nat.isDigit_of_mem_toDigits (by decide) (by decide) member

theorem ofZeros (n : Nat) : Numeric (String.ofList (List.replicate n '0')) :=
  ofDigits fun c member => by rw [List.eq_of_mem_replicate member]; rfl

theorem ofInt (n : Int) : Numeric (toString n) := by
  cases n with
  | ofNat n => exact ofNat n
  | negSucc n => exact append (a := "-") rfl (ofNat (n + 1))

theorem ofSigned {text : String} (numeric : Numeric text) (negative : Bool) :
    Numeric (Number.signed negative text) :=
  ite _ (append rfl numeric) numeric

theorem ofPointed (places n : Nat) : Numeric (Number.pointed places n) := by
  have padded : Numeric (String.ofList (List.replicate (places + 1 - (toString n).length) '0') ++
      toString n) := append (ofZeros _) (ofNat n)
  exact ite _ padded (append (append (padded.ofSubset (List.take_subset _ _)) rfl)
    (padded.ofSubset (List.drop_subset _ _)))

theorem ofLayout (d : Number.Digits) : Numeric (Number.layout d) := by
  have text := ofNat d.digits
  have lead := text.ofSubset (List.take_subset 1 _)
  have tail := text.ofSubset (List.drop_subset 1 _)
  have size := ofNat (((toString d.digits).length : Int) + d.place - 1).natAbs
  -- positional with zeros or a point, or one digit, the others behind a point, and an exponent
  refine ite _ (ite _ ?_ (ofPointed _ _)) (append (append (append lead ?_) ?_) ?_)
  · exact append (append text (ofZeros _)) rfl
  · exact ite _ rfl (append rfl tail)
  · exact ite _ rfl rfl
  · exact ite _ (append rfl size) size

theorem ofShortest (x : Float) : Numeric (Number.shortest x) := by
  have infinite : Numeric "inf" := rfl
  have zero : Numeric "0.0" := rfl
  unfold Number.shortest
  split
  · rfl
  · exact infinite.ofSigned _
  · exact zero.ofSigned _
  · exact ofSigned (ofLayout _) _

theorem neControlName {text : String} (numeric : Numeric text) (control : Control) :
    text ≠ control.name := by
  rintro rfl
  cases control <;> exact absurd numeric (by unfold Numeric; decide)

end Numeric

theorem Control.nameNeBracketed (control : Control) {opening : String}
    (opens : opening = "[" ∨ opening = "\x7b") (rest : String) :
    opening ++ rest ≠ control.name := by
  intro same
  have first : control.name.toList.head? = some '[' ∨ control.name.toList.head? = some '\x7b' := by
    rw [← same, String.toList_append]
    obtain rfl | rfl := opens
    · exact .inl rfl
    · exact .inr rfl
  cases control <;> exact absurd first (by decide)

theorem Json.plainNeControlName {value : Json} (other : ∀ text, value ≠ .string text)
    (control : Control) : value.plain ≠ control.name := by
  cases value with
  | null => cases control <;> decide
  | bool value => cases value <;> cases control <;> decide
  | int n => exact (Numeric.ofInt n).neControlName control
  | float x => exact (Numeric.ofShortest x).neControlName control
  | string text => exact absurd rfl (other text)
  | list items =>
    rw [plain, shown, String.append_assoc]
    · exact control.nameNeBracketed (.inl rfl) _
    · exact other
  | object members =>
    rw [plain, shown, String.append_assoc]
    · exact control.nameNeBracketed (.inr rfl) _
    · exact other

namespace Control

theorem ofNameName (control : Control) : ofName? control.name = some control := by
  cases control <;> rfl

theorem eqNameOfName {text : String} {control : Control} (found : ofName? text = some control) :
    text = control.name := by
  have named := List.find?_some found
  exact (beq_iff_eq.mp named).symm

theorem nameMem (control : Control) : control.name ∈ ["play", "pause", "step", "reset"] := by
  cases control <;> decide

theorem existsOfNameMem {text : String} (named : text ∈ ["play", "pause", "step", "reset"]) :
    ∃ control : Control, text = control.name := by
  simp only [List.mem_cons, List.not_mem_nil, or_false] at named
  obtain rfl | rfl | rfl | rfl := named
  · exact ⟨.play, rfl⟩
  · exact ⟨.pause, rfl⟩
  · exact ⟨.step, rfl⟩
  · exact ⟨.reset, rfl⟩

end Control

namespace Api

def posted : List Resource := [.control, .source, .speed]

theorem postedForall {p : Resource → Prop} (control : p .control) (source : p .source)
    (speed : p .speed) : ∀ resource ∈ posted, p resource :=
  List.forall_mem_cons.mpr ⟨control, List.forall_mem_cons.mpr ⟨source,
    List.forall_mem_singleton.mpr speed⟩⟩

def Operable (members : List (String × Json)) : Resource → Prop
  | .control => ∃ action ∈ ["play", "pause", "step", "reset"],
      Json.member? "action" members = some (.string action)
  | .source => ∃ text, Json.member? "source" members = some (.string text)
  | .speed => ∃ n, Json.member? "speed" members = some (.int n)
  | _ => False

def Judged (asked : Except Refusal Operation) (operable : Prop) : Prop :=
  match asked with
  | .ok _ => operable
  | .error refusal => refusal.status = 400 ∧ ¬ operable

variable {members : List (String × Json)}

theorem controlJudged : Judged (asked members .control) (Operable members .control) := by
  unfold asked actionOf field Operable
  cases found : Json.member? "action" members with
  | none =>
    refine ⟨rfl, ?_⟩
    rintro ⟨_, _, given⟩
    cases given
  | some value =>
    simp only [Except.map, Except.bind, controlOf, Control.ofJson]
    cases known : Control.ofName? value.plain with
    | none =>
      refine ⟨rfl, ?_⟩
      rintro ⟨action, named, given⟩
      obtain ⟨control, rfl⟩ := Control.existsOfNameMem named
      cases given
      rw [Json.plain, Control.ofNameName] at known
      cases known
    | some control =>
      have named := Control.eqNameOfName known
      by_cases string : ∃ text, value = .string text
      · obtain ⟨text, rfl⟩ := string
        exact ⟨control.name, control.nameMem, congrArg (some <| Json.string ·) named⟩
      · exact absurd named (Json.plainNeControlName (fun text same => string ⟨text, same⟩) control)

theorem sourceJudged : Judged (asked members .source) (Operable members .source) := by
  unfold asked loadOf field Operable
  cases Json.member? "source" members with
  | none =>
    refine ⟨rfl, ?_⟩
    rintro ⟨_, given⟩
    cases given
  | some value =>
    cases value with
    | string text => exact ⟨text, rfl⟩
    | _ =>
      refine ⟨rfl, ?_⟩
      rintro ⟨_, given⟩
      cases given

theorem speedJudged : Judged (asked members .speed) (Operable members .speed) := by
  unfold asked setSpeedOf field Operable
  cases Json.member? "speed" members with
  | none =>
    refine ⟨rfl, ?_⟩
    rintro ⟨_, given⟩
    cases given
  | some value =>
    cases value with
    | int n => exact ⟨n, rfl⟩
    | _ =>
      refine ⟨rfl, ?_⟩
      rintro ⟨_, given⟩
      cases given

theorem askedJudged : ∀ resource ∈ posted,
    Judged (asked members resource) (Operable members resource) :=
  postedForall controlJudged sourceJudged speedJudged

theorem askedOkPosted {resource : Resource} {operation : Operation}
    (asks : asked members resource = .ok operation) : resource ∈ posted := by
  cases resource with
  | control | source | speed => decide
  | state | steps | lanes | manual page => cases asks

theorem statusNotOk (refusal : Refusal) : refusal.response.status ≠ 200 := by
  cases refusal <;> simp only [Refusal.response, Refusal.status] <;> decide

theorem routePosts {request : Request} (method : request.method = "POST") :
    ∀ resource ∈ posted, request.path = resource.path → route request = .ok resource := by
  refine postedForall ?_ ?_ ?_ <;>
    · intro path
      simp only [route, method, path]
      rfl

theorem routeMethod {request : Request} {resource : Resource}
    (routed : route request = .ok resource) : request.method ∈ resource.methods := by
  simp only [route] at routed
  split at routed
  · split at routed
    · cases routed
      exact List.contains_iff_mem.mp ‹_›
    · cases routed
  · cases routed

theorem postedMethods : ∀ resource ∈ posted, resource.methods = ["POST"] :=
  postedForall rfl rfl rfl

namespace Request

def operation? (request : Request) : Option Operation :=
  match route request, request.body with
  | .ok resource, .ok members => (asked members resource).toOption
  | _, _ => none

def meets {σ : Type} (request : Request) (rig : Rig σ) : Rig σ :=
  match route request, request.body with
  | .ok resource, .ok members => heard rig members resource
  | _, _ => rig

theorem operationPosted {request : Request} {operation : Operation}
    (asks : request.operation? = some operation) : ∃ resource ∈ posted, ∃ members,
      route request = .ok resource ∧ request.body = .ok members ∧
        asked members resource = .ok operation := by
  unfold operation? at asks
  split at asks
  · rename_i resource members routed read
    cases given : asked members resource with
    | error refusal => rw [given] at asks; cases asks
    | ok other =>
      rw [given] at asks
      cases asks
      exact ⟨resource, askedOkPosted given, members, routed, read, given⟩
  · cases asks

theorem operationMethod {request : Request} {operation : Operation}
    (asks : request.operation? = some operation) : request.method = "POST" := by
  obtain ⟨resource, posts, _, routed, _⟩ := operationPosted asks
  have method := routeMethod routed
  rw [postedMethods resource posts] at method
  exact List.mem_singleton.mp method

end Request

variable {σ : Type}

theorem heardNotices (rig : Rig σ) (members : List (String × Json)) (resource : Resource) :
    ∃ notices, heard rig members resource = { rig with notices } := by
  unfold heard
  split
  · split
    · exact ⟨_, rfl⟩
    · exact ⟨rig.notices, rfl⟩
  · exact ⟨rig.notices, rfl⟩

variable [Scheduler σ] (unwritable? : Json → Option String) (attendance : Attendance)

theorem handlePosts (rig : Rig σ) {request : Request} : ∀ resource ∈ posted,
    route request = .ok resource → handle unwritable? attendance rig request =
      match request.body with
      | .error refusal => (rig, refusal.response)
      | .ok members => post unwritable? attendance rig members resource := by
  refine postedForall ?_ ?_ ?_ <;>
    · intro routed
      cases read : request.body <;> simp only [handle, routed, read]

theorem handleUnasked (rig : Rig σ) {request : Request} (unasked : request.operation? = none) :
    (∃ notices, (handle unwritable? attendance rig request).1 = { rig with notices }) ∧
    (request.method = "POST" → (handle unwritable? attendance rig request).2.status ≠ 200) := by
  cases routed : route request with
  | error refusal =>
    simp only [handle, routed]
    exact ⟨⟨rig.notices, rfl⟩, fun _ => statusNotOk refusal⟩
  | ok resource =>
    have method := routeMethod routed
    by_cases posts : resource ∈ posted
    · rw [handlePosts unwritable? attendance rig resource posts routed]
      cases read : request.body with
      | error refusal => exact ⟨⟨rig.notices, rfl⟩, fun _ => statusNotOk refusal⟩
      | ok members =>
        simp only [Request.operation?, routed, read] at unasked
        cases given : asked members resource with
        | ok operation => rw [given] at unasked; cases unasked
        | error refusal =>
          simp only [post, given]
          exact ⟨heardNotices rig members resource, fun _ => statusNotOk refusal⟩
    · cases resource with
      | control | source | speed => exact absurd (by decide) posts
      | state | steps | lanes | manual page =>
        simp only [handle, routed]
        refine ⟨⟨rig.notices, rfl⟩, fun posts => ?_⟩
        rw [posts] at method
        simp [Resource.methods] at method

theorem handleAsked (rig : Rig σ) {request : Request} {operation : Operation}
    (asks : request.operation? = some operation) :
    let carried := (request.meets rig).carry operation attendance.moves
    (handle unwritable? attendance rig request).1 = carried.1 ∧
    (carried.2 = true → (handle unwritable? attendance rig request).2 =
      respond unwritable? carried.1.player.view) ∧
    (carried.2 = false → (handle unwritable? attendance rig request).2.status ≠ 200) := by
  obtain ⟨resource, posts, members, routed, read, given⟩ := Request.operationPosted asks
  rw [handlePosts unwritable? attendance rig resource posts routed]
  simp only [Request.meets, routed, read, post, given]
  generalize (heard rig members resource).carry operation attendance.moves = carried
  obtain ⟨after, returned⟩ := carried
  cases returned with
  | true => exact ⟨rfl, fun _ => rfl, Bool.noConfusion⟩
  | false => exact ⟨rfl, Bool.noConfusion, fun _ => statusNotOk _⟩

theorem respondOk {body : Json} (writable : unwritable? body = none) :
    respond unwritable? body = ⟨200, body⟩ := by
  rw [respond, writable]

theorem respondStatus {body : Json} (succeeds : (respond unwritable? body).status = 200) :
    unwritable? body = none := by
  unfold respond at succeeds
  split at succeeds
  · exact absurd succeeds (statusNotOk _)
  · assumption

/- What lies with others than the player: the framework refuses a body that is no object with 422, no
error is raised while the operation is carried out, and the status after it can be written. -/
structure Undisturbed (rig : Rig σ) (request : Request) : Prop where
  granted : ∀ refusal, request.body = .error refusal → refusal.status = 422
  returns : ∀ operation, request.operation? = some operation →
    ((request.meets rig).carry operation attendance.moves).2 = true
  writable : unwritable? (handle unwritable? attendance rig request).1.player.view = none

namespace Undisturbed

variable {unwritable? attendance} {rig : Rig σ} {request : Request}

theorem askedStatus (undisturbed : Undisturbed unwritable? attendance rig request)
    {operation : Operation} (asks : request.operation? = some operation) :
    (handle unwritable? attendance rig request).2.status = 200 := by
  obtain ⟨after, answers, _⟩ := handleAsked unwritable? attendance rig asks
  rw [answers (undisturbed.returns operation asks),
    respondOk unwritable? (after ▸ undisturbed.writable)]

theorem postStatus (undisturbed : Undisturbed unwritable? attendance rig request)
    {resource : Resource} (posts : resource ∈ posted) (routed : route request = .ok resource) :
    ((handle unwritable? attendance rig request).2.status = 400 ↔
      ∃ members, request.body = .ok members ∧ ¬ Operable members resource) ∧
    ((handle unwritable? attendance rig request).2.status = 200 ↔
      ∃ members, request.body = .ok members ∧ Operable members resource) := by
  have whole := handlePosts unwritable? attendance rig resource posts routed
  cases read : request.body with
  | error refusal =>
    have status : (handle unwritable? attendance rig request).2.status = 422 := by
      rw [whole, read]
      exact undisturbed.granted refusal read
    simp [status]
  | ok members =>
    have judged : Judged (asked members resource) (Operable members resource) :=
      askedJudged resource posts
    cases given : asked members resource with
    | error refusal =>
      rw [given] at judged
      have status : (handle unwritable? attendance rig request).2.status = 400 := by
        rw [whole, read]
        simp only [post, given]
        exact judged.1
      simp [status, judged.2]
    | ok operation =>
      rw [given] at judged
      have operable : Operable members resource := judged
      have asks : request.operation? = some operation := by
        simp only [Request.operation?, routed, read, given, Except.toOption]
      have status := undisturbed.askedStatus asks
      simp [status, operable]

end Undisturbed

/-- Whatever the state of the player, its listeners, the framework and the request. What asks for no
operation leaves the player and its scheduler as they were, and so does every request that reads. A
post that succeeds is answered with the status that is read right after it. If nothing comes between,
a post is refused with 400 exactly when the member of its object is missing or of another kind,
nothing but a string passing for the name of a control, and a request that does not succeed leaves
the player and its scheduler as they were. -/
theorem requestsAnswered (rig : Rig σ) (request : Request) :
    let after := (handle unwritable? attendance rig request).1
    let response := (handle unwritable? attendance rig request).2
    let unchanged := after.player = rig.player ∧ after.scheduler = rig.scheduler
    (request.operation? = none ∨ request.method = "GET" → unchanged) ∧
    (request.method = "POST" → response.status = 200 →
      response = (handle unwritable? attendance after ⟨"GET", "/state", .ok []⟩).2) ∧
    (Undisturbed unwritable? attendance rig request →
      (∀ resource ∈ posted, request.method = "POST" → request.path = resource.path →
        (response.status = 400 ↔
          ∃ members, request.body = .ok members ∧ ¬ Operable members resource) ∧
        (response.status = 200 ↔
          ∃ members, request.body = .ok members ∧ Operable members resource)) ∧
      (response.status ≠ 200 → unchanged)) := by
  intro after response unchanged
  have unmoved (unasked : request.operation? = none) : unchanged := by
    obtain ⟨⟨notices, same⟩, _⟩ := handleUnasked unwritable? attendance rig unasked
    have player : after.player = _ := congrArg Rig.player same
    have scheduler : after.scheduler = _ := congrArg Rig.scheduler same
    exact ⟨player, scheduler⟩
  refine ⟨?_, fun posts succeeds => ?_, fun undisturbed => ⟨?_, fun fails => ?_⟩⟩
  · rintro (unasked | gets)
    · exact unmoved unasked
    · cases asks : request.operation? with
      | none => exact unmoved asks
      | some operation =>
        exact absurd (gets.symm.trans (Request.operationMethod asks)) (by decide)
  · cases asks : request.operation? with
    | none => exact absurd succeeds ((handleUnasked unwritable? attendance rig asks).2 posts)
    | some operation =>
      obtain ⟨same, answers, raised⟩ := handleAsked unwritable? attendance rig asks
      cases returned : ((request.meets rig).carry operation attendance.moves).2 with
      | false => exact absurd succeeds (raised returned)
      | true =>
        have view : response = respond unwritable? after.player.view :=
          (answers returned).trans (congrArg (fun rig => respond unwritable? rig.player.view) same.symm)
        exact view
  · exact fun resource posts method path =>
      undisturbed.postStatus posts (routePosts method resource posts path)
  · cases asks : request.operation? with
    | none => exact unmoved asks
    | some operation => exact absurd (undisturbed.askedStatus asks) fails

/- Two posts that ask for what there is: a speed of 4301 digits is refused before it is looked at, and
a step whose listener raises is refused when it is done. -/
theorem operablePostsRefused :
    let steps := [1, 2, 3].map fun n => ⟨n, n, "code", "a", "note", .callStack, 1, .execute, none⟩
    let rig : Rig Ledger := Rig.start steps {} {}
    let watched : Rig Ledger := { rig with player := { rig.player with listeners := ["a"] } }
    let members := [("action", Json.string "step")]
    let stepped := handle (fun _ => none) { moves := [.failed], raised := .value "no" } watched
      ⟨"POST", "/control", .ok members⟩
    serve? 960 rig "POST" "/speed" (Text.ascii ("\x7b\"speed\":".toList ++ Json.ones 4301)) =
      some (rig, Refusal.unreadable.response) ∧
    Operable members .control ∧ stepped.2.status = 400 ∧ stepped.1.player.board.index = 0 := by
  intro steps rig watched members stepped
  exact ⟨longSpeedUnread rig 959 (by decide), ⟨"step", by decide, rfl⟩, by decide, by decide⟩

theorem watchedStepAnswered :
    let steps := [1, 2, 3].map fun n => ⟨n, n, "code", "a", "note", .callStack, 1, .execute, none⟩
    let rig : Rig Ledger := Rig.start steps {} {}
    let watched : Rig Ledger := { rig with player := { rig.player with listeners := ["a"] } }
    let request : Request := ⟨"POST", "/control", .ok [("action", .string "step")]⟩
    Undisturbed Json.unwritable? {} watched request ∧
      (handle Json.unwritable? {} watched request).2.status = 200 := by
  intro steps rig watched request
  have undisturbed : Undisturbed Json.unwritable? {} watched request := by
    refine ⟨fun _ read => (nomatch read), fun operation asks => ?_, by decide +kernel⟩
    have known : request.operation? = some (.control .step) := by decide
    cases known.symm.trans asks
    decide
  have statuses := ((requestsAnswered Json.unwritable? {} watched request).2.2 undisturbed).1
    .control (by decide) rfl rfl
  exact ⟨undisturbed, statuses.2.mpr ⟨_, rfl, "step", by decide, rfl⟩⟩

end Api
end LoopPlayer
