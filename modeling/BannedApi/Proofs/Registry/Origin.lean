import BannedApi.Proofs.Json.Newline
import BannedApi.Proofs.Registry.Override
import BannedApi.Proofs.Text.Utf8

/-!
Where a ban list comes from does not matter.

A file is decoded and its line ends are unified before it is read, what an address answers is read as
it stands. The text in a file therefore differs from the one that was written there, but in nothing
that a JSON text says (`Json.read_unifyNewlines`). So a file with a text and an address that answers
with it give the same bans (`take_file_take_url`).
-/
namespace BannedApi

/-! ### Getting the text -/

/-- A file holds a text: as such, or in bytes. -/
inductive Content.Holds (t : String) : Content → Prop where
  | text : Holds t (.text t)
  | bytes : Holds t (.bytes t.toUTF8.data.toList)

theorem Store.readText_of_holds {store : Store} {path : String} {content : Content} {t : String}
    (hread : store.read path = .ok content) (hcontent : content.Holds t) :
    store.readText path = .ok (String.ofList (Text.unifyNewlines t.toList)) := by
  cases hcontent with
  | text => rw [readText, hread]
  | bytes =>
    rw [← Text.Utf8.encode_toList] at hread
    simp only [readText, hread, Text.Utf8.decode_encode]

theorem Web.get_of_success {web : Web} {url reason t : String} {status : Int}
    (hreply : web.reply url = .response status reason t)
    (hstatus : ¬ (400 ≤ status ∧ status < 600)) : web.get url = .ok t := by
  have hclient : ¬ (400 ≤ status ∧ status < 500) := by omega
  have hserver : ¬ (500 ≤ status ∧ status < 600) := by omega
  rw [get, hreply]
  simp [hclient, hserver]

/-! ### Reading it -/

/-- The same became of two sources. If they are no JSON texts then they have the same problem, but
perhaps at another place. -/
inductive LoadOutcome.Alike : LoadOutcome → LoadOutcome → Prop where
  | applied (loaded : List (Section × Nat)) (missing malformed : List Section) :
    Alike (.applied loaded missing malformed) (.applied loaded missing malformed)
  | failed (error : String) : Alike (.failed error) (.failed error)
  | invalid {f g : Json.Fault} (h : f.problem = g.problem) (text other : List Char) :
    Alike (.failed s!"invalid JSON: {f.message text}") (.failed s!"invalid JSON: {g.message other}")

namespace LoadResult

theorem status_eq_of_alike {r r' : LoadResult} (h : r.outcome.Alike r'.outcome) :
    r.status = r'.status := by
  obtain ⟨source, outcome⟩ := r
  obtain ⟨source', outcome'⟩ := r'
  cases h <;> rfl

end LoadResult

namespace Reading

/-- Two sources say the same, each under its own name. -/
structure Same (r r' : Reading) : Prop where
  outcome : r.result.outcome.Alike r'.result.outcome
  classes : r.classes = r'.classes
  packages : r.packages = r'.packages
  methods : r.methods = r'.methods

theorem same_ofDocument (label label' : String) (document : Value) :
    (ofDocument label document).Same (ofDocument label' document) := by
  rw [ofDocument, ofDocument]
  split
  · exact ⟨.applied _ _ _, rfl, rfl, rfl⟩
  · exact ⟨.failed _, rfl, rfl, rfl⟩

/-- What a fault of a text leads to. -/
theorem ofText_of_fault {label text : String} {f : Json.Fault}
    (h : Json.read text.toList = .error f) :
    (∃ n, f.problem = .longInteger n ∧ Json.parse text = .error (.integer (.tooManyDigits n))
      ∧ ofText label text = .error (.integer (.tooManyDigits n)))
    ∨ (∀ n, f.problem ≠ .longInteger n)
      ∧ Json.parse text = .error (.malformed (f.message text.toList))
      ∧ ofText label text = .ok (refused label s!"invalid JSON: {f.message text.toList}"
          s!"JSON file '{label}' is invalid. Unable to parse: {f.message text.toList}") := by
  have hparse : Json.parse text = .error (f.refusal text.toList) := by rw [Json.parse, h]; rfl
  rw [ofText, hparse, Json.Fault.refusal]
  split
  · next n hproblem => exact .inl ⟨n, hproblem, rfl, rfl⟩
  · next hother => exact .inr ⟨hother, rfl, rfl⟩

/-- Texts with the same value or the same problem end the run in the same way, or say the same. -/
theorem ofText_alike (label label' : String) {text text' : String}
    (h : (Json.read text.toList).mapError Json.Fault.problem
      = (Json.read text'.toList).mapError Json.Fault.problem) :
    (∃ f, Json.parse text' = .error (.integer f) ∧ ofText label text = .error (.integer f)
        ∧ ofText label' text' = .error (.integer f))
    ∨ ∃ r r', ofText label text = .ok r ∧ ofText label' text' = .ok r' ∧ r.Same r'
        ∧ ∀ d, Json.parse text' = .ok d → r = ofDocument label d := by
  cases hread : Json.read text.toList with
  | ok d =>
    cases hread' : Json.read text'.toList with
    | error f' =>
      rw [hread, hread'] at h
      cases h
    | ok d' =>
      rw [hread, hread'] at h
      obtain rfl : d = d' := Except.ok.inj h
      have hparse : Json.parse text = .ok d := by rw [Json.parse, hread]; rfl
      have hparse' : Json.parse text' = .ok d := by rw [Json.parse, hread']; rfl
      refine .inr ⟨ofDocument label d, ofDocument label' d, ?_, ?_, same_ofDocument _ _ d, ?_⟩
      · rw [ofText, hparse]
      · rw [ofText, hparse']
      · intro d' hd'
        cases hparse'.symm.trans hd'
        rfl
  | error f =>
    cases hread' : Json.read text'.toList with
    | ok d' =>
      rw [hread, hread'] at h
      cases h
    | error f' =>
      rw [hread, hread'] at h
      have hproblem : f.problem = f'.problem := Except.error.inj h
      rcases ofText_of_fault hread with ⟨n, hn, -, htext⟩ | ⟨hother, -, htext⟩
      · rcases ofText_of_fault hread' with ⟨n', hn', hparse', htext'⟩ | ⟨hother', -, -⟩
        · cases hn.symm.trans (hproblem.trans hn')
          exact .inl ⟨_, hparse', htext, htext'⟩
        · exact absurd (hproblem.symm.trans hn) (hother' n)
      · rcases ofText_of_fault hread' with ⟨n', hn', -, -⟩ | ⟨-, hparse', htext'⟩
        · exact absurd (hproblem.trans hn') (hother n')
        · refine .inr ⟨_, _, htext, htext', ⟨.invalid hproblem _ _, rfl, rfl, rfl⟩, ?_⟩
          intro d hd
          cases hparse'.symm.trans hd

end Reading

namespace Loader

theorem merge_of_same (l : Loader) {r r' : Reading} (h : r.Same r') :
    (l.merge r).classes = (l.merge r').classes ∧ (l.merge r).packages = (l.merge r').packages
      ∧ (l.merge r).methods = (l.merge r').methods := by
  simp only [merge, h.classes, h.packages, h.methods, and_self]

/-- A text is loaded from a file that holds it, and from an address that answers with it. Both loads
end the run over the same number that is too long; or both have a result, and these are alike. Either
way the same bans are loaded afterwards. -/
theorem take_file_take_url (l : Loader) (store : Store) (path : String) (content : Content)
    (web : Web) (url reason t : String) (status : Int) (hread : store.read path = .ok content)
    (hcontent : content.Holds t) (hreply : web.reply url = .response status reason t)
    (hstatus : ¬ (400 ≤ status ∧ status < 600)) :
    ((∃ f, Json.parse t = .error (.integer f) ∧ Reading.ofFile store path = .error (.integer f)
        ∧ Reading.ofUrl web url = .error (.integer f))
      ∨ ∃ r r', Reading.ofFile store path = .ok r ∧ Reading.ofUrl web url = .ok r'
        ∧ r.result.source = path ∧ r'.result.source = url
        ∧ r.result.status = r'.result.status ∧ r.result.outcome.Alike r'.result.outcome
        ∧ ∀ d, Json.parse t = .ok d → r = Reading.ofDocument path d)
    ∧ (l.take (.file store path)).classes = (l.take (.url web url)).classes
    ∧ (l.take (.file store path)).packages = (l.take (.url web url)).packages
    ∧ (l.take (.file store path)).methods = (l.take (.url web url)).methods := by
  have hfile : Reading.ofFile store path
      = Reading.ofText path (String.ofList (Text.unifyNewlines t.toList)) := by
    rw [Reading.ofFile, Store.readText_of_holds hread hcontent]
  have hurl : Reading.ofUrl web url
      = (Reading.ofText url t).map fun r => { r with records := Reading.asked url :: r.records } := by
    rw [Reading.ofUrl, Web.get_of_success hreply hstatus]
    dsimp only
    cases Reading.ofText url t <;> rfl
  have hsame := Json.read_unifyNewlines t.toList
  rw [← @String.toList_ofList (Text.unifyNewlines t.toList)] at hsame
  rcases Reading.ofText_alike path url hsame with
    ⟨f, hparse, htext, htext'⟩ | ⟨r, r', htext, htext', hr, hd⟩
  · rw [htext] at hfile
    rw [htext'] at hurl
    refine ⟨.inl ⟨f, hparse, hfile, hurl⟩, ?_⟩
    simp only [take, LoadStep.reading, hfile, hurl, Except.map, and_self]
  · rw [htext] at hfile
    rw [htext'] at hurl
    refine ⟨.inr ⟨r, _, hfile, hurl, ?_⟩, ?_⟩
    · exact ⟨(Reading.labelled_ofFile hfile).source, (Reading.labelled_ofUrl hurl).source,
        LoadResult.status_eq_of_alike hr.outcome, hr.outcome, hd⟩
    · simp only [take, LoadStep.reading, hfile, hurl, Except.map]
      exact l.merge_of_same ⟨hr.outcome, hr.classes, hr.packages, hr.methods⟩

/-! ### A line end of two characters -/

/-- A ban list, as a document. -/
def sampleBans : Value := .object [("classes", .object [("a.B", .text "reason")])]

/-- The ban list as a text, with a line end of two characters. -/
def sampleLines : String := "\x7b\"classes\": \x7b\"a.B\": \"reason\"\x7d\x7d" ++ "\r\n"

/-- The text in the bytes of a file. -/
def sampleStored : Store := ⟨[(["bans.json"], .file (.bytes sampleLines.toUTF8.data.toList))]⟩

/-- The text as the answer of an address. -/
def sampleServed : Web := ⟨[("http://a", .response 200 "OK" sampleLines)]⟩

theorem parse_sampleLines : Json.parse sampleLines = .ok sampleBans := by
  have hreason : Json.Legible .compact (.object [("a.B", .text "reason")]) :=
    Json.legible_object rfl (by simp) (by simpa using Json.legible_text rfl "reason")
  have hbans : Json.Legible .compact sampleBans :=
    Json.legible_object rfl (by simp) (by simpa using hreason)
  obtain ⟨text, htext, hparse⟩ := Json.parse_print hbans "\r\n" (by simp [Json.isSpace])
  have hprint : Json.print .compact sampleBans
      = .ok "\x7b\"classes\": \x7b\"a.B\": \"reason\"\x7d\x7d" := by rfl
  cases htext.symm.trans hprint
  exact hparse

theorem take_file_take_url_lines :
    sampleStored.read "bans.json" = .ok (.bytes sampleLines.toUTF8.data.toList)
    ∧ sampleServed.reply "http://a" = .response 200 "OK" sampleLines
    ∧ (take {} (.file sampleStored "bans.json")).classes = .ofList [("a.B", "reason")]
    ∧ (take {} (.url sampleServed "http://a")).classes = .ofList [("a.B", "reason")] := by
  have hread : sampleStored.read "bans.json" = .ok (.bytes sampleLines.toUTF8.data.toList) := rfl
  have hreply : sampleServed.reply "http://a" = .response 200 "OK" sampleLines := rfl
  obtain ⟨hresult, hclasses, -, -⟩ := take_file_take_url {} sampleStored "bans.json" _ sampleServed
    "http://a" "OK" sampleLines 200 hread .bytes hreply (by decide)
  have hfile : (take {} (.file sampleStored "bans.json")).classes = .ofList [("a.B", "reason")] := by
    rcases hresult with ⟨f, hparse, -⟩ | ⟨r, r', hr, -, -, -, -, -, hd⟩
    · cases parse_sampleLines.symm.trans hparse
    · rw [take, LoadStep.reading, hr, hd _ parse_sampleLines]
      rfl
  exact ⟨hread, hreply, hfile, hclasses.symm.trans hfile⟩

end Loader

end BannedApi
