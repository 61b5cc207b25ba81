import ProjectScan.Proofs.Connection

/-!
What the id of a candidate tells of the scan and of the project. An id is a text of address,
credentials id and project name with marks between, and nothing in these parts is escaped. Each part
can be read off the id as long as the mark behind it does not begin within it; a missing credentials
id is shown as the text `null`.
-/

namespace ProjectScan

namespace Text

/-- In the text with the mark behind it, the mark stands nowhere before its end. -/
def EndsFirst (mark front : List Char) : Prop :=
  ∀ initial, initial ++ mark <+: front ++ mark → initial = front

theorem eq_of_endsFirst {mark left right after other : List Char} (first : EndsFirst mark left)
    (second : EndsFirst mark right) (same : left ++ mark ++ after = right ++ mark ++ other) :
    left = right := by
  have begins : left ++ mark <+: right ++ mark ++ other := same ▸ List.prefix_append _ after
  rcases List.prefix_or_prefix_of_prefix begins (List.prefix_append _ other) with shorter | longer
  · exact second left shorter
  · exact (first right longer).symm

/-- A mark that is absent from a text is first met behind it, unless the text ends as the mark begins
and the rest of the mark is a beginning of the mark. -/
theorem endsFirst_of_absent {mark front : List Char} (absent : ¬mark <:+: front)
    (apart : ∀ count < mark.length, 0 < count → mark.drop count <+: mark →
      ¬mark.take count <:+ front) : EndsFirst mark front := by
  intro initial starts
  have shorter : initial <+: front := by
    apply List.prefix_of_prefix_length_le ((List.prefix_append _ _).trans starts)
      (List.prefix_append front mark)
    have lengths := starts.length_le
    rw [List.length_append, List.length_append] at lengths
    omega
  obtain ⟨more, rfl⟩ := shorter
  rw [List.append_assoc, List.prefix_append_right_inj] at starts
  rcases Nat.lt_or_ge more.length mark.length with part | whole
  · obtain ⟨rest, shape⟩ : more <+: mark :=
      List.prefix_of_prefix_length_le (List.prefix_append more mark) starts (Nat.le_of_lt part)
    by_cases none : more = []
    · rw [none, List.append_nil]
    · have behind : mark.drop more.length = rest := by rw [← shape, List.drop_left]
      have before : mark.take more.length = more := by rw [← shape, List.take_left]
      have repeats : rest <+: mark := by
        nth_rewrite 1 [← shape] at starts
        exact (List.prefix_append_right_inj more).mp starts
      refine absurd ?_ (apart more.length part (List.length_pos_of_ne_nil none) (behind ▸ repeats))
      rw [before]
      exact List.suffix_append initial more
  · have inside : mark <+: more :=
      List.prefix_of_prefix_length_le starts (List.prefix_append more mark) whole
    exact absurd (inside.isInfix.trans (List.suffix_append initial more).isInfix) absent

end Text

namespace Navigator

def sourceId (navigator : Navigator) (project : String) : String :=
  navigator.id ++ idSeparator ++ project

def credentialsMark : String := idSeparator ++ "credentials-id="

def shown (text : Option String) : String := text.getD "null"

def HidesAddress (navigator : Navigator) : Prop :=
  credentialsMark.toList <:+: (shown navigator.serverUrl).toList

/-- The separator behind the credentials id stands in it, or begins at its end. -/
def HidesCredentials (navigator : Navigator) : Prop :=
  idSeparator.toList <:+: (shown navigator.credentialsId).toList ∨
    [':'] <:+ (shown navigator.credentialsId).toList

variable {navigator other : Navigator} {project another : String}

theorem sourceId_toList (navigator : Navigator) (project : String) :
    (navigator.sourceId project).toList = "server-url=".toList ++
      ((shown navigator.serverUrl).toList ++ credentialsMark.toList ++
        ((shown navigator.credentialsId).toList ++ idSeparator.toList ++ project.toList)) := by
  unfold sourceId id idPart shown credentialsMark
  simp only [String.toList_append, List.append_assoc]
  rfl

theorem endsFirst_address (plain : ¬navigator.HidesAddress) :
    Text.EndsFirst credentialsMark.toList (shown navigator.serverUrl).toList := by
  apply Text.endsFirst_of_absent plain
  have apart : ∀ count < credentialsMark.toList.length, 0 < count →
      ¬credentialsMark.toList.drop count <+: credentialsMark.toList := by decide +kernel
  intro count within positive repeats
  exact absurd repeats (apart count within positive)

theorem endsFirst_credentials (plain : ¬navigator.HidesCredentials) :
    Text.EndsFirst idSeparator.toList (shown navigator.credentialsId).toList := by
  unfold HidesCredentials at plain
  rw [not_or] at plain
  apply Text.endsFirst_of_absent plain.1
  intro count within positive _
  have two : idSeparator.toList.length = 2 := rfl
  obtain rfl : count = 1 := by omega
  exact plain.2

theorem address_of_sourceId (same : navigator.sourceId project = other.sourceId another)
    (plain : ¬navigator.HidesAddress) (otherPlain : ¬other.HidesAddress) :
    shown navigator.serverUrl = shown other.serverUrl := by
  rw [← String.toList_inj, sourceId_toList, sourceId_toList, List.append_cancel_left_eq] at same
  exact String.toList_inj.mp
    (Text.eq_of_endsFirst (endsFirst_address plain) (endsFirst_address otherPlain) same)

theorem sourceId_eq_iff_of_address (address : shown navigator.serverUrl = shown other.serverUrl) :
    navigator.sourceId project = other.sourceId another ↔
      (shown navigator.credentialsId).toList ++ idSeparator.toList ++ project.toList =
        (shown other.credentialsId).toList ++ idSeparator.toList ++ another.toList := by
  rw [← String.toList_inj, sourceId_toList, sourceId_toList, List.append_cancel_left_eq, address,
    List.append_cancel_left_eq]

theorem credentials_of_sourceId (same : navigator.sourceId project = other.sourceId another)
    (address : shown navigator.serverUrl = shown other.serverUrl)
    (plain : ¬navigator.HidesCredentials) (otherPlain : ¬other.HidesCredentials) :
    shown navigator.credentialsId = shown other.credentialsId := by
  rw [sourceId_eq_iff_of_address address] at same
  exact String.toList_inj.mp
    (Text.eq_of_endsFirst (endsFirst_credentials plain) (endsFirst_credentials otherPlain) same)

theorem project_of_sourceId (same : navigator.sourceId project = other.sourceId another)
    (address : shown navigator.serverUrl = shown other.serverUrl)
    (credentials : shown navigator.credentialsId = shown other.credentialsId) :
    project = another := by
  rw [sourceId_eq_iff_of_address address, credentials, List.append_cancel_left_eq] at same
  exact String.toList_inj.mp same

variable {σ τ : Type} {observer : Observer σ} {watched : Bool} {state : σ} {channel : Channel}
  {call : Call}

theorem sourceId_of_call (told : call ∈ navigator.calls observer watched state channel) :
    (∃ url, navigator.serverUrl = some url) ∧ call.candidate.id = navigator.sourceId call.name := by
  cases ready : navigator.prepared (navigator.scanSink observer) with
  | error failed =>
      rw [navigator.calls_of_error observer watched state channel ready] at told
      cases told
  | ok pager =>
      obtain ⟨project, rfl⟩ := navigator.calls_of_pager observer watched state channel ready call told
      refine ⟨?_, rfl⟩
      cases address : navigator.serverUrl with
      | some url => exact ⟨url, rfl⟩
      | none =>
          have nothing : Endpoint.resolve none = .error .blank := by decide +kernel
          unfold prepared at ready
          rw [address, nothing] at ready
          cases ready

/-- What equal ids of candidates tell of their scans and projects. The addresses are the same, unless
the mark behind one of them stands in it. With one address the credentials ids are the same, where a
missing one counts as `null`, unless the separator behind one of them begins within it. With one
address and credentials id the projects are the same. -/
theorem calls_identified {other : Navigator} {beside : Observer τ} {alsoWatched : Bool} {start : τ}
    {elsewhere : Channel} {twin : Call}
    (told : call ∈ navigator.calls observer watched state channel)
    (otherTold : twin ∈ other.calls beside alsoWatched start elsewhere)
    (same : call.candidate.id = twin.candidate.id) :
    (¬navigator.HidesAddress → ¬other.HidesAddress → navigator.serverUrl = other.serverUrl) ∧
      (navigator.serverUrl = other.serverUrl →
        ¬navigator.HidesCredentials → ¬other.HidesCredentials →
          shown navigator.credentialsId = shown other.credentialsId) ∧
      (navigator.serverUrl = other.serverUrl →
        shown navigator.credentialsId = shown other.credentialsId → call.name = twin.name) := by
  obtain ⟨⟨url, address⟩, own⟩ := sourceId_of_call told
  obtain ⟨⟨url', address'⟩, own'⟩ := sourceId_of_call otherTold
  rw [own, own'] at same
  refine ⟨?_, ?_, ?_⟩
  · intro plain otherPlain
    have urls := address_of_sourceId same plain otherPlain
    rw [address, address'] at urls ⊢
    exact congrArg some urls
  · intro urls
    exact credentials_of_sourceId same (congrArg shown urls)
  · intro urls credentials
    exact project_of_sourceId same (congrArg shown urls) credentials

/-- The same server and credentials id, scanned with care and without. -/
theorem calls_identified_careless :
    let careless := { plain with insecure := true }
    ∃ call ∈ plain.calls untilSecond true 0 Channel.twoPages,
      ∃ twin ∈ careless.calls untilSecond false 0 Channel.twoPages,
        call.candidate.id = "server-url=http://h::credentials-id=null::b" ∧
          call.candidate.id = twin.candidate.id ∧ call.name = twin.name := by
  intro careless
  have listed : "server-url=http://h::credentials-id=null::b" ∈
      (plain.calls untilSecond true 0 Channel.twoPages).map (·.candidate.id) := by decide +kernel
  have again : "server-url=http://h::credentials-id=null::b" ∈
      (careless.calls untilSecond false 0 Channel.twoPages).map (·.candidate.id) := by
    decide +kernel
  obtain ⟨call, told, own⟩ := List.mem_map.mp listed
  obtain ⟨twin, otherTold, others⟩ := List.mem_map.mp again
  have same : call.candidate.id = twin.candidate.id := own.trans others.symm
  refine ⟨call, told, twin, otherTold, own, same, ?_⟩
  exact (calls_identified told otherTold same).2.2 rfl rfl

def pageOf (name : String) : Channel :=
  .fresh [⟨.response (.prompt 200 ("\x7b\"" ++ name ++ "\": \x7b\x7d\x7d")), false, false⟩]
    (.failure (.transport .connection "script exhausted")) (.empty Log.Level.info)

/-- The separator in a credentials id makes the id of one project that of another. -/
theorem ids_not_apart : ¬∀ (navigator other : Navigator) (observer : Observer Nat)
    (channel elsewhere : Channel), ∀ call ∈ navigator.calls observer true 0 channel,
      ∀ twin ∈ other.calls observer true 0 elsewhere, call.candidate.id = twin.candidate.id →
        navigator.serverUrl = other.serverUrl ∧ navigator.credentialsId = other.credentialsId ∧
          call.name = twin.name := by
  intro apart
  let navigator := { plain with credentialsId := some "ci::a" }
  let other := { plain with credentialsId := some "ci" }
  have listed : ("server-url=http://h::credentials-id=ci::a::b", "b") ∈
      (navigator.calls untilSecond true 0 (pageOf "b")).map (fun call => (call.candidate.id, call.name)) := by
    decide +kernel
  have again : ("server-url=http://h::credentials-id=ci::a::b", "a::b") ∈
      (other.calls untilSecond true 0 (pageOf "a::b")).map (fun call => (call.candidate.id, call.name)) := by
    decide +kernel
  obtain ⟨call, told, own⟩ := List.mem_map.mp listed
  obtain ⟨twin, otherTold, others⟩ := List.mem_map.mp again
  obtain ⟨ids, name⟩ := Prod.mk.inj own
  obtain ⟨ids', name'⟩ := Prod.mk.inj others
  obtain ⟨_, _, names⟩ := apart navigator other untilSecond _ _ call told twin otherTold
    (ids.trans ids'.symm)
  rw [name, name'] at names
  exact absurd names (by decide)

/-- No credentials id and the id `null` come to the same. -/
example : plain.sourceId "a" = ({ plain with credentialsId := some "null" } : Navigator).sourceId "a" :=
  by decide +kernel

/-- So do an address that holds the mark and one that ends before it. -/
example : ({ plain with serverUrl := some "http://h/x::credentials-id=ci" } : Navigator).sourceId "a" =
    ({ plain with serverUrl := some "http://h/x", credentialsId := some "ci" } : Navigator).sourceId
      "credentials-id=null::a" := by decide +kernel

end Navigator
end ProjectScan
