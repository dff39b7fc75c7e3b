import MonitoringStackOperator.Stack.Children

/-! The self-scrape job of the scrape-config secret. A relabel rule of the `prometheus-self`
job keeps the targets whose service label `app.kubernetes.io/name` matches the rule's regex,
which `newAdditionalScrapeConfigsSecret` writes as the stack's name followed by
`-prometheus`, and `newPrometheusService` gives the stack's Prometheus service that label.
`prometheusSelfKeepRegex` reads that regex back out of the configuration text, line by line,
and `selfScrapeKeeps` applies the rule read from a secret to a service.

Prometheus reads a relabel regex as RE2 syntax anchored at both ends. A DNS-1123 subdomain
holds lowercase letters, digits, `-` and `.`, and of these only `.` is a metacharacter, which
matches any character but a newline. `parseRegex` and `fullMatch` are that fragment of RE2:
literal characters and `.`. -/

namespace MonitoringStackOperator.Stack

open Api

/-! ### Relabel regexes -/

inductive RegexAtom where
  | literal (c : Char)
  | anyChar
deriving DecidableEq

/-- The RE2 metacharacters other than `.`. -/
def regexMetaChars : List Char :=
  ['\\', '^', '$', '|', '?', '*', '+', '(', ')', '[', ']', '\x7b', '\x7d']

/-- The atoms of a regex of literal characters and `.`; none for a regex with any other
metacharacter, which the fragment does not cover. -/
def parseRegex : List Char → Option (List RegexAtom)
  | [] => some []
  | c :: rest =>
      if c = '.' then (parseRegex rest).map (.anyChar :: ·)
      else if c ∈ regexMetaChars then none
      else (parseRegex rest).map (.literal c :: ·)

def RegexAtom.accepts : RegexAtom → Char → Bool
  | .literal c, d => c == d
  | .anyChar, d => d != '\n'

/-- A match of the whole text, as the anchors `^(?:…)$` Prometheus adds demand. -/
def fullMatch : List RegexAtom → List Char → Bool
  | [], [] => true
  | atom :: atoms, c :: text => atom.accepts c && fullMatch atoms text
  | _, _ => false

/-- The `keep` action of a relabel rule with one source label: whether the target is kept. -/
def keepAccepts (regex value : String) : Option Bool :=
  (parseRegex regex.data).map fun atoms => fullMatch atoms value.data

/-- The value of the label `app.kubernetes.io/name` of a service, which service discovery
exposes as `__meta_kubernetes_service_label_app_kubernetes_io_name`. -/
def serviceNameLabel (service : Core.Service) : Option String :=
  service.metadata.labelSet.lookup "app.kubernetes.io/name"

/-- The regex of the `keep` rule of the `prometheus-self` job in a scrape configuration: the
fifth line after the job's name, under a `keep` action on the service name label. -/
def prometheusSelfKeepRegex (config : String) : Option String :=
  match ((config.data.splitOn '\n').dropWhile (· != "- job_name: prometheus-self".data)).drop 2 with
  | relabel :: keep :: sources :: label :: rule :: _ =>
      if relabel == "  relabel_configs:".data && keep == "  - action: keep".data &&
          sources == "    source_labels:".data &&
          label == "    - __meta_kubernetes_service_label_app_kubernetes_io_name".data then
        (rule.dropPrefix? "    regex: ".data).map String.mk
      else none
  | _ => none

/-- Whether the `prometheus-self` job of a scrape-config secret keeps a service. -/
def selfScrapeKeeps (secret : Core.Secret) (service : Core.Service) : Option Bool :=
  ((secret.stringData.bind (·.lookup additionalScrapeConfigsSelfScrapeKey)).bind
    prometheusSelfKeepRegex).bind fun regex => (serviceNameLabel service).bind (keepAccepts regex)

theorem parseRegex_literals {text : List Char}
    (plain : ∀ c ∈ text, c ≠ '.' ∧ c ∉ regexMetaChars) :
    parseRegex text = some (text.map .literal) := by
  induction text with
  | nil => rfl
  | cons c rest ih =>
      obtain ⟨undotted, notMeta⟩ := plain c (.head _)
      simp [parseRegex, undotted, notMeta, ih fun c member => plain c (.tail _ member)]

theorem fullMatch_literals (pattern text : List Char) :
    fullMatch (pattern.map .literal) text = (pattern == text) := by
  induction pattern generalizing text with
  | nil => cases text <;> rfl
  | cons c rest ih =>
      cases text with
      | nil => rfl
      | cons d text => simp [fullMatch, RegexAtom.accepts, ih]

/-- A regex of literal characters keeps exactly the value it spells. -/
theorem keepAccepts_of_plain {regex : String} (plain : ∀ c ∈ regex.data, c ≠ '.' ∧ c ∉ regexMetaChars)
    (value : String) : keepAccepts regex value = some (regex.data == value.data) := by
  simp [keepAccepts, parseRegex_literals plain, fullMatch_literals]

/-! ### The lines of the configuration -/

theorem splitOnP_append_sep {α : Type} {p : α → Bool} (pre : List α) {sep : α}
    (separates : p sep = true) (rest : List α) :
    (pre ++ sep :: rest).splitOnP p = pre.splitOnP p ++ rest.splitOnP p := by
  induction pre with
  | nil => simp [separates]
  | cons x pre ih =>
      rw [List.cons_append, List.splitOnP_cons, List.splitOnP_cons, ih]
      split
      · rfl
      · obtain ⟨first, later, parts⟩ := List.exists_cons_of_ne_nil (List.splitOnP_ne_nil p pre)
        rw [parts]
        rfl

theorem splitOn_append_line {α : Type} [BEq α] [LawfulBEq α] (pre : List α) {sep : α}
    {line : List α} (oneLine : sep ∉ line) (rest : List α) :
    (pre ++ sep :: (line ++ sep :: rest)).splitOn sep = pre.splitOn sep ++ line :: rest.splitOn sep := by
  rw [List.splitOn, @splitOnP_append_sep _ (· == sep) pre sep (beq_self_eq_true sep),
    List.splitOnP_first (p := (· == sep)) _ _ _ (beq_self_eq_true sep)]
  · rfl
  · exact fun c member same => oneLine (eq_of_beq same ▸ member)

set_option maxRecDepth 4000 in
/-- The lines of the `prometheus-self` job up to its first regex, and the key of that regex. -/
theorem prometheusSelfJobBeforeName_lines :
    ∃ header, prometheusSelfJobBeforeName.data = header ++ '\n' :: "    regex: ".data ∧
      header.splitOn '\n' = ["".data, "- job_name: prometheus-self".data,
        "  honor_labels: true".data, "  relabel_configs:".data, "  - action: keep".data,
        "    source_labels:".data,
        "    - __meta_kubernetes_service_label_app_kubernetes_io_name".data] :=
  ⟨("\n- job_name: prometheus-self\n  honor_labels: true\n  relabel_configs:\n" ++
      "  - action: keep\n    source_labels:\n" ++
      "    - __meta_kubernetes_service_label_app_kubernetes_io_name").data, by decide, by decide⟩

theorem prometheusSelfJobBeforeNamespace_data :
    prometheusSelfJobBeforeNamespace.data =
      "-prometheus".data ++ '\n' :: prometheusSelfJobBeforeNamespace.data.drop 12 := by
  have front : prometheusSelfJobBeforeNamespace.data.take 12 = "-prometheus".data ++ ['\n'] := by
    decide
  conv_lhs => rw [← List.take_append_drop 12 prometheusSelfJobBeforeNamespace.data, front]
  simp

/-- The keep rule `selfScrapeConfig` writes has the regex of the stack's name followed by
`-prometheus`, for a name on one line. -/
theorem prometheusSelfKeepRegex_selfScrapeConfig (msName msNamespace : String)
    (oneLine : '\n' ∉ msName.data) :
    prometheusSelfKeepRegex (selfScrapeConfig msName msNamespace) = some (msName ++ "-prometheus") := by
  obtain ⟨header, split, headerLines⟩ := prometheusSelfJobBeforeName_lines
  obtain ⟨later, tail⟩ : ∃ later, prometheusSelfJobBeforeNamespace.data =
      "-prometheus".data ++ '\n' :: later := ⟨_, prometheusSelfJobBeforeNamespace_data⟩
  have ruleLine : '\n' ∉ "    regex: ".data ++ (msName.data ++ "-prometheus".data) := by
    simp only [List.mem_append, not_or]
    exact ⟨by decide, oneLine, by decide⟩
  have config : (selfScrapeConfig msName msNamespace).data =
      header ++ '\n' :: (("    regex: ".data ++ (msName.data ++ "-prometheus".data)) ++ '\n' ::
        (later ++ (msNamespace.data ++ (alertmanagerSelfJobBeforeName.data ++ (msName.data ++
          (alertmanagerSelfJobBeforeNamespace.data ++ msNamespace.data)))))) := by
    rw [selfScrapeConfig]
    simp only [String.data_append]
    rw [split, tail]
    simp only [List.append_assoc, List.cons_append]
  rw [prometheusSelfKeepRegex, config, splitOn_append_line _ ruleLine, headerLines, List.cons_append,
    List.dropWhile_cons_of_pos (by decide), List.cons_append, List.dropWhile_cons_of_neg (by decide)]
  rw [List.cons_append, List.cons_append, List.cons_append, List.cons_append, List.cons_append,
    List.nil_append, List.drop_succ_cons, List.drop_succ_cons, List.drop_zero]
  dsimp only
  rw [if_pos (by decide), List.dropPrefix?_append_of_beq _ (beq_self_eq_true _)]
  rfl

theorem selfScrapeConfig_newAdditionalScrapeConfigsSecret (ms : MonitoringStack) (name : String) :
    (newAdditionalScrapeConfigsSecret ms name).stringData.bind (·.lookup additionalScrapeConfigsSelfScrapeKey) =
      some (selfScrapeConfig ms.metadata.name ms.metadata.«namespace») := by
  simp [newAdditionalScrapeConfigsSecret, mapOf]

/-! ### The rule of a stack -/

theorem lookup_objectLabels_name (name msName key value : String) :
    (objectLabels name msName key value).lookup "app.kubernetes.io/name" = some name := by
  simp [objectLabels, mapOf, Finmap.lookup_insert_of_ne]

/-- The Prometheus service of a stack carries the name label the rule reads. -/
theorem serviceNameLabel_newPrometheusService (ms : MonitoringStack) (key value : String) :
    serviceNameLabel (newPrometheusService ms key value) = some (ms.metadata.name ++ "-prometheus") :=
  lookup_objectLabels_name _ _ _ _

/-- A letter, digit or `-` is not a metacharacter. -/
theorem plain_of_dns1123 {c : Char} (label : isDNS1123EdgeChar c = true ∨ c = '-') :
    c ≠ '.' ∧ c ∉ regexMetaChars := by
  have special : ∀ m ∈ '.' :: regexMetaChars, isDNS1123EdgeChar m = false ∧ m ≠ '-' := by decide
  have notSpecial : c ∉ '.' :: regexMetaChars := fun member => by
    obtain ⟨notEdge, notDash⟩ := special c member
    rcases label with edge | dash
    · rw [notEdge] at edge
      cases edge
    · exact notDash dash
  exact ⟨fun dot => notSpecial (dot ▸ .head _), fun member => notSpecial (.tail _ member)⟩

/-- For a stack whose name is a DNS-1123 label, with no `.`, the rule keeps the Prometheus
service of another stack exactly when the two have the same name. -/
theorem keepAccepts_prometheus_iff_of_label {ms : MonitoringStack}
    (label : isDNS1123Label ms.metadata.name = true) (other : MonitoringStack) (key value : String) :
    (serviceNameLabel (newPrometheusService other key value)).bind
        (keepAccepts (ms.metadata.name ++ "-prometheus")) = some true ↔
      other.metadata.name = ms.metadata.name := by
  have suffixPlain : ∀ c ∈ "-prometheus".data, c ≠ '.' ∧ c ∉ regexMetaChars := by decide
  have plain : ∀ c ∈ (ms.metadata.name ++ "-prometheus").data, c ≠ '.' ∧ c ∉ regexMetaChars := by
    intro c member
    rcases List.mem_append.mp member with inName | inSuffix
    · exact plain_of_dns1123 (isDNS1123Label_chars label c inName)
    · exact suffixPlain c inSuffix
  rw [serviceNameLabel_newPrometheusService, Option.some_bind, keepAccepts_of_plain plain]
  simp only [Option.some.injEq, beq_iff_eq, ← String.ext_iff, append_suffix_inj]
  exact eq_comm

/-- For a stack whose name is a DNS-1123 label, with no `.`, the keep rule read from its
scrape-config secret keeps the Prometheus service of another stack exactly when the two have
the same name. -/
theorem selfScrapeKeeps_prometheus_iff_of_label {ms : MonitoringStack}
    (label : isDNS1123Label ms.metadata.name = true) (name : String) (other : MonitoringStack)
    (key value : String) :
    selfScrapeKeeps (newAdditionalScrapeConfigsSecret ms name) (newPrometheusService other key value) =
        some true ↔
      other.metadata.name = ms.metadata.name := by
  have oneLine : '\n' ∉ ms.metadata.name.data := fun member => by
    rcases isDNS1123Label_chars label _ member with edge | dash
    · exact absurd edge (by decide)
    · exact absurd dash (by decide)
  rw [selfScrapeKeeps, selfScrapeConfig_newAdditionalScrapeConfigsSecret, Option.some_bind,
    prometheusSelfKeepRegex_selfScrapeConfig _ _ oneLine, Option.some_bind]
  exact keepAccepts_prometheus_iff_of_label label other key value

/-- Stack `foo`. -/
theorem selfScrapeKeeps_prometheus_iff_of_foo :
    let ms : MonitoringStack := { metadata := { name := "foo", «namespace» := "ns" } }
    isDNS1123Label ms.metadata.name = true ∧
      ∀ (name : String) (other : MonitoringStack) (key value : String),
        selfScrapeKeeps (newAdditionalScrapeConfigsSecret ms name)
            (newPrometheusService other key value) = some true ↔
          other.metadata.name = ms.metadata.name := by
  intro ms
  have label : isDNS1123Label ms.metadata.name = true := by decide
  exact ⟨label, selfScrapeKeeps_prometheus_iff_of_label label⟩

/-- Stacks `a.b` and `axb` in one namespace, both valid object names. The scrape-config
secret of `a.b` has a rule with the regex `a.b-prometheus` on the service name label, and the
rule keeps the name label `axb-prometheus` of the Prometheus service of `axb`, since the `.` of
the regex matches any character. This is a fact about the rule alone: the services of `a.b`
are named `a.b-…`, which a Service name, a DNS-1035 label, cannot be, so the store refuses
them. -/
theorem selfScrape_keeps_other_stack :
    let ms : MonitoringStack := { metadata := { name := "a.b", «namespace» := "ns" } }
    let other : MonitoringStack := { metadata := { name := "axb", «namespace» := "ns" } }
    isDNS1123Subdomain ms.metadata.name = true ∧ isDNS1123Subdomain other.metadata.name = true ∧
      ms.metadata.name ≠ other.metadata.name ∧
      (prometheusSelfJobBeforeName ++ ms.metadata.name ++ "-prometheus\n").data <+:
        (selfScrapeConfig ms.metadata.name ms.metadata.«namespace»).data ∧
      ∀ key value, (serviceNameLabel (newPrometheusService other key value)).bind
        (keepAccepts (ms.metadata.name ++ "-prometheus")) = some true := by
  intro ms other
  refine ⟨by decide, by decide, by decide, by decide, fun key value => ?_⟩
  rw [serviceNameLabel_newPrometheusService]
  decide

end MonitoringStackOperator.Stack
