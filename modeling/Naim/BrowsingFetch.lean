import Naim.Browsing

/-!
# Fetching a page

`FetchUrl` checks the URL that it is given and has it fetched by `curl` or by a
rendered browser. Both of them go where the servers send them; `curl` reports the
URL at which it ended, and that one is checked again. A character of a text stands
for a byte.
-/

namespace Naim.Browsing

structure Citation where
  start : ℕ
  «end» : ℕ
  url : String
  deriving DecidableEq

structure FetchResult where
  (url finalUrl contentType fetchedAt : String := "")
  backend : String := "broker_fetch"
  rendered : Bool := false
  (title screenshotPath : Option String := none)
  (visibleText responseHash : String := "")
  citations : List Citation := []
  injectionFlags : List String := []
  deriving DecidableEq

structure CefRenderedDocument where
  finalUrl : String := ""
  contentType : String := "text/html; charset=utf-8"
  title : Option String := none
  (visibleText htmlSource : String := "")
  screenshotPath : Option String := none
  deriving DecidableEq

structure ApiError where
  status : ℕ
  (code message : String)
  deriving DecidableEq

/-- The functions on texts that `FetchUrl` uses for its result, and the clock. -/
structure Documents where
  extractTitle : String → Option String
  (normalizeWhitespace stripActiveHtml hashText : String → String)
  detectInjectionFlags : String → List String
  utcNow : String

def trim (text : String) : String := String.ofList (trimCopy text.toList)

def contains (text needle : String) : Bool := decide (needle.toList <:+: lowercaseCopy text.toList)

/-- The limit is converted to an unsigned number. -/
def truncateText (text : String) (policy : BrowsingPolicy) : String :=
  String.ofList (text.toList.take policy.maxFetchBytes.toInt64.toUInt64.toNat)

def cite (text url : String) : List Citation := if text = "" then [] else [⟨0,min 120 text.length,url⟩]

def evidenceLooksThin (fetched : FetchResult) : Bool :=
  (trim fetched.visibleText).length < 160 || contains (trim fetched.visibleText) "enable javascript" ||
    contains (trim fetched.visibleText) "javascript is required" ||
    contains (trim fetched.visibleText) "please wait while your request is being verified"

def isJsHeavyDomain (host : String) : Bool :=
  endsWithDomain host "x.com" || endsWithDomain host "twitter.com" || endsWithDomain host "reddit.com" ||
    endsWithDomain host "old.reddit.com"

section Results

variable (documents : Documents) (policy : BrowsingPolicy) (requestedUrl : String)

def visibleTextOf (contentType body : String) : Except ApiError String :=
  if contains contentType "text/plain" then .ok (documents.normalizeWhitespace body)
  else if contains contentType "text/html" then .ok (documents.stripActiveHtml body)
  else .error ⟨415,"unsupported_content_type","only text/html and text/plain fetches are supported"⟩

def sanitizeFetchedDocument (finalUrl contentType body : String) : Except ApiError FetchResult := do
  let visibleText ← visibleTextOf documents contentType body
  let visibleText := truncateText visibleText policy
  let finalUrl := if finalUrl = "" then requestedUrl else finalUrl
  .ok {
    url := requestedUrl, finalUrl, contentType, title := documents.extractTitle body, visibleText
    responseHash := documents.hashText body, injectionFlags := documents.detectInjectionFlags visibleText
    citations := cite visibleText finalUrl}

def renderedText (rendered : CefRenderedDocument) (text hashed : String) : FetchResult :=
  let visibleText := truncateText text policy
  let finalUrl := if rendered.finalUrl = "" then requestedUrl else rendered.finalUrl
  {url := requestedUrl
   finalUrl, contentType := rendered.contentType, title := rendered.title, visibleText
   responseHash := documents.hashText hashed, injectionFlags := documents.detectInjectionFlags visibleText
   citations := cite visibleText finalUrl}

def buildRenderedFetchResult (rendered : CefRenderedDocument) : Except ApiError FetchResult := do
  let result ←
    if trim rendered.visibleText ≠ "" then
      .ok (renderedText documents policy requestedUrl rendered (trim rendered.visibleText)
        (if rendered.htmlSource = "" then rendered.visibleText else rendered.htmlSource))
    else if rendered.htmlSource ≠ "" then
      sanitizeFetchedDocument documents policy requestedUrl rendered.finalUrl rendered.contentType rendered.htmlSource
    else .ok (renderedText documents policy requestedUrl rendered rendered.visibleText rendered.visibleText)
  .ok {result with
    title := result.title.or rendered.title, fetchedAt := documents.utcNow, backend := "browser_render"
    rendered := true, screenshotPath := rendered.screenshotPath}

end Results

structure CommandResult where
  exitCode : Int32 := 0
  output : String := ""
  deriving DecidableEq

/-- A visit by `curl`: the redirects that the servers send, one after the other, and how
it ends when all of them are followed. The first field is the exception of a command that
could not be started. -/
structure CurlVisit where
  notStarted : Option String := none
  redirects : List String := []
  exitCode : Int32 := 0
  (failureOutput contentType : String := "")
  body : Except String String := .ok ""

/-- Redirects are followed up to a limit and within the two protocols. -/
def followedRedirects : ℕ → List String → List String
  | n + 1, target::targets => if (afterScheme target.toList).isSome then target::followedRedirects n targets else []
  | _, _ => []

namespace CurlVisit

variable (visit : CurlVisit) (url : String)

/-- `-L --proto =https,http --max-redirs 5` -/
def followed : List String := followedRedirects 5 visit.redirects

def requested : List String :=
  match visit.notStarted with
  | some _ => []
  | none => url::visit.followed

/-- `RunCommandCapture` with `-w "%\x7burl_effective\x7d\n%\x7bcontent_type\x7d"` -/
def runCommandCapture : Except String CommandResult :=
  match visit.notStarted with
  | some what => .error what
  | none =>
    if visit.exitCode ≠ 0 then .ok ⟨visit.exitCode,visit.failureOutput⟩
    else if visit.followed ≠ visit.redirects then
      .ok ⟨if visit.followed.length = 5 then 47 else 1,visit.failureOutput⟩
    else .ok ⟨0,visit.redirects.getLastD url ++ "\n" ++ visit.contentType⟩

end CurlVisit

def reportedUrl (output : String) : String := trim (String.ofList ((Text.parts '\n' output).headD []))

def reportedType (output : String) : String := trim (String.ofList ((Text.parts '\n' output).tail.headD []))

structure Frame where
  (url text source : String)

/-- A visit by the rendered browser: the targets that the pages navigate to, and the main
frame in the end, or why there is none to look at. -/
structure RenderVisit where
  targets : List String := []
  frame : Except String (Option Frame) := .error ""

def isAllowedTopLevelNavigationTarget (url : String) : Bool :=
  (afterScheme url.toList).isSome || lowercaseCopy url.toList = "about:blank".toList

namespace RenderVisit

variable (visit : RenderVisit)

/-- `OnBeforeBrowse` cancels the other navigations. No server is asked for the blank page. -/
def followed : List String :=
  visit.targets.filter fun target =>
    isAllowedTopLevelNavigationTarget target && lowercaseCopy target.toList ≠ "about:blank".toList

/-- `FetchPage` with `Snapshot`, which sets no title and here takes no screenshot. -/
def fetchPage (includeHtmlSource : Bool) : Except String CefRenderedDocument := do
  let frame ← visit.frame
  .ok {
    finalUrl := frame.elim "" Frame.url, visibleText := frame.elim "" Frame.text
    htmlSource := if includeHtmlSource then frame.elim "" Frame.source else ""}

end RenderVisit

structure Environment where
  policy : BrowsingPolicy := {}
  documents : Documents
  cefAvailable : Bool := true
  curl : CurlVisit := {}
  (rendered renderedAgain : RenderVisit := {})

/-- The URLs that were requested, and what the caller is told about a failure. -/
structure FetchLog where
  requested : List String := []
  (errorCode errorMessage : String := "")
  deriving DecidableEq

abbrev Fetch (α : Type) := ExceptT ApiError (StateM FetchLog) α

def requests (urls : List String) : Fetch Unit := modify fun log => {log with requested := log.requested ++ urls}

def refuse (code message : String) : Fetch (Option FetchResult) := do
  modify fun log => {log with errorCode := code, errorMessage := message}
  pure none

section Fetch

variable (env : Environment) (url : String)

def fetchUrlViaBroker : Fetch (Option FetchResult) :=
  match isSafeBrowsingUrl url env.policy with
  | .error reason => refuse "unsafe_url" reason
  | .ok _ => do
    requests (env.curl.requested url)
    match env.curl.runCommandCapture url with
    | .error what => refuse "fetch_failed" what
    | .ok command =>
      if command.exitCode ≠ 0 then refuse "fetch_upstream_failed" (trim command.output)
      else
        let finalUrl := reportedUrl command.output
        match isSafeBrowsingUrl (if finalUrl = "" then url else finalUrl) env.policy with
        | .error reason => refuse "unsafe_redirect_target" reason
        | .ok _ =>
          match env.curl.body with
          | .error what => refuse "fetch_failed" what
          | .ok body => do
            let fetched ← liftExcept (sanitizeFetchedDocument env.documents env.policy url finalUrl
              (reportedType command.output) body)
            pure (some {fetched with fetchedAt := env.documents.utcNow})

def renderedBackendReady : Bool := env.policy.renderedBrowserEnabled && env.cefAvailable

def visitPage (visit : RenderVisit) : Fetch (Except String CefRenderedDocument) := do
  requests (url::visit.followed)
  pure (visit.fetchPage false)

def returnRendered (document : CefRenderedDocument) : Fetch (Option FetchResult) :=
  some <$> liftExcept (buildRenderedFetchResult env.documents env.policy url document)

def fetchBrokered : Fetch (Option FetchResult) := do
  match ← fetchUrlViaBroker env url with
  | none => pure none
  | some brokered =>
    if renderedBackendReady env && evidenceLooksThin brokered then
      match ← visitPage url env.renderedAgain with
      | .ok document => returnRendered env url document
      | .error _ => pure (some brokered)
    else pure (some brokered)

def fetchUrl : Fetch (Option FetchResult) :=
  match isSafeBrowsingUrl url env.policy with
  | .error reason => refuse "unsafe_url" reason
  | .ok host => do
    if renderedBackendReady env && isJsHeavyDomain host then
      match ← visitPage url env.rendered with
      | .ok document => returnRendered env url document
      | .error message => do
        if message ≠ "" then modify fun log => {log with errorMessage := message}
        fetchBrokered env url
    else fetchBrokered env url

end Fetch

def accepts (policy : BrowsingPolicy) (url : String) : Bool :=
  match isSafeBrowsingUrl url policy with
  | .ok _ => true
  | .error _ => false

variable {policy : BrowsingPolicy} {fetched : FetchResult} {visit : RenderVisit}
  {host finalUrl contentType body : String}

lemma accepts_of_ok {url : String} (h : isSafeBrowsingUrl url policy = .ok host) : accepts policy url = true := by
  simp [accepts,h]

def performed {α : Type} (fetch : Fetch α) (log : FetchLog) : Except ApiError α × FetchLog :=
  Id.run ((ExceptT.run fetch).run log)

/-- All that was requested, and the URL of what is returned, is accepted. -/
def Obeys (policy : BrowsingPolicy) (outcome : Except ApiError (Option FetchResult) × FetchLog) : Prop :=
  (∀ url ∈ outcome.2.requested, accepts policy url = true) ∧
    ∀ fetched, outcome.1 = .ok (some fetched) → accepts policy fetched.finalUrl = true

section Performed

variable {α β : Type} (log : FetchLog)

@[simp] lemma performed_pure (a : α) : performed (pure a) log = (.ok a,log) := rfl

lemma performed_bind (fetch : Fetch α) (next : α → Fetch β) :
    performed (fetch >>= next) log = match performed fetch log with
      | (.ok a,log') => performed (next a) log'
      | (.error error,log') => (.error error,log') := by
  simp only [performed,ExceptT.run_bind,StateT.run_bind]
  rcases (ExceptT.run fetch).run log with ⟨_ | _,_⟩ <;> rfl

@[simp] lemma performed_map (f : α → β) (fetch : Fetch α) :
    performed (f <$> fetch) log = ((performed fetch log).1.map f,(performed fetch log).2) := by
  rw [← bind_pure_comp,performed_bind]
  rcases performed fetch log with ⟨_ | _,_⟩ <;> rfl

@[simp] lemma performed_requests (urls : List String) :
    performed (requests urls) log = (.ok (),{log with requested := log.requested ++ urls}) := rfl

@[simp] lemma performed_modify (f : FetchLog → FetchLog) :
    performed (modify f : Fetch Unit) log = (.ok (),f log) := rfl

@[simp] lemma performed_refuse (code message : String) :
    performed (refuse code message) log = (.ok none,{log with errorCode := code, errorMessage := message}) := rfl

@[simp] lemma performed_liftExcept (x : Except ApiError α) : performed (liftExcept x) log = (x,log) := by
  cases x <;> rfl

end Performed

lemma sanitizeFetchedDocument_finalUrl
    (h : sanitizeFetchedDocument documents policy requestedUrl finalUrl contentType body = .ok fetched) :
    fetched.finalUrl = if finalUrl = "" then requestedUrl else finalUrl := by
  obtain ⟨text,-,hresult⟩ := Checked.bind_eq_ok.1 h
  rw [← Except.ok.inj hresult]

def CefRenderedDocument.shownUrl (document : CefRenderedDocument) (url : String) : String :=
  if document.finalUrl = "" then url else document.finalUrl

variable {document : CefRenderedDocument}

lemma buildRenderedFetchResult_eq (documents : Documents) (policy : BrowsingPolicy) (url : String)
    (h : document.htmlSource = "") :
    ∃ fetched, buildRenderedFetchResult documents policy url document = .ok fetched ∧
      fetched.finalUrl = document.shownUrl url := by
  unfold buildRenderedFetchResult
  by_cases htext : trim document.visibleText ≠ ""
  · exact ⟨_,by rw [if_pos htext]; rfl,rfl⟩
  · exact ⟨_,by rw [if_neg htext,if_neg (not_not.2 h)]; rfl,rfl⟩

lemma fetchPage_htmlSource (h : visit.fetchPage false = .ok document) : document.htmlSource = "" := by
  obtain ⟨frame,-,hdocument⟩ := Checked.bind_eq_ok.1 h
  rw [← Except.ok.inj hdocument]
  rfl

section Hops

variable (env : Environment) (url : String)

/-- The page that `curl` brings, when it is let through. -/
def Delivered (fetched : FetchResult) : Prop :=
  ∃ command body page, env.curl.runCommandCapture url = .ok command ∧ command.exitCode = 0 ∧
    accepts env.policy (if reportedUrl command.output = "" then url else reportedUrl command.output) = true ∧
    env.curl.body = .ok body ∧
    sanitizeFetchedDocument env.documents env.policy url (reportedUrl command.output) (reportedType command.output)
      body = .ok page ∧
    {page with fetchedAt := env.documents.utcNow} = fetched

def Confined (visit : RenderVisit) : Prop :=
  (∀ target ∈ visit.followed, accepts env.policy target = true) ∧
    ∀ document, visit.fetchPage false = .ok document → accepts env.policy (document.shownUrl url) = true

def BrokeredConfined : Prop :=
  (∀ target ∈ env.curl.requested url, accepts env.policy target = true) ∧
    (renderedBackendReady env = true → (∃ fetched, Delivered env url fetched ∧ evidenceLooksThin fetched = true) →
      Confined env url env.renderedAgain)

def HopsConfined : Prop :=
  ∀ host, isSafeBrowsingUrl url env.policy = .ok host →
    if renderedBackendReady env && isJsHeavyDomain host then
      Confined env url env.rendered ∧ ((∃ message, env.rendered.fetchPage false = .error message) →
        BrokeredConfined env url)
    else BrokeredConfined env url

variable {env url}

lemma performed_fetchUrlViaBroker (h : isSafeBrowsingUrl url env.policy = .ok host) (log : FetchLog) :
    (performed (fetchUrlViaBroker env url) log).2.requested = log.requested ++ env.curl.requested url ∧
      ∀ fetched, (performed (fetchUrlViaBroker env url) log).1 = .ok (some fetched) ↔ Delivered env url fetched := by
  simp only [fetchUrlViaBroker,h,performed_bind,performed_requests]
  cases hcommand : env.curl.runCommandCapture url with
  | error what => simp [Delivered,hcommand]
  | ok command =>
    by_cases hexit : command.exitCode ≠ 0
    · simp [Delivered,hcommand,hexit]
    have hexit : command.exitCode = 0 := not_not.1 hexit
    cases hfinal : isSafeBrowsingUrl (if reportedUrl command.output = "" then url else reportedUrl command.output)
        env.policy with
    | error reason => simp [Delivered,accepts,hcommand,hexit,hfinal]
    | ok finalHost =>
      cases hbody : env.curl.body with
      | error what => simp [Delivered,hcommand,hexit,hfinal,hbody]
      | ok body =>
        cases hpage : sanitizeFetchedDocument env.documents env.policy url (reportedUrl command.output)
            (reportedType command.output) body with
        | error error => simp [Delivered,hcommand,hexit,hfinal,hbody,hpage,Except.map]
        | ok page => simp [Delivered,hcommand,hexit,hfinal,hbody,hpage,Except.map,accepts_of_ok hfinal]

lemma Delivered.accepted (h : Delivered env url fetched) : accepts env.policy fetched.finalUrl = true := by
  obtain ⟨command,body,page,-,-,hfinal,-,hpage,rfl⟩ := h
  have hurl := sanitizeFetchedDocument_finalUrl hpage
  exact hurl ▸ hfinal

lemma obeys_returnRendered (hdocument : visit.fetchPage false = .ok document) (log : FetchLog) :
    Obeys env.policy (performed (returnRendered env url document) log) ↔
      (∀ target ∈ log.requested, accepts env.policy target = true) ∧
        accepts env.policy (document.shownUrl url) = true := by
  obtain ⟨fetched,hfetched,hshown⟩ :=
    buildRenderedFetchResult_eq env.documents env.policy url (fetchPage_htmlSource hdocument)
  simp [Obeys,returnRendered,hfetched,Except.map,← hshown]

lemma obeys_visitPage {fallback : String → Fetch (Option FetchResult)} {P : Prop}
    (hurl : accepts env.policy url = true)
    (hfallback : ∀ message, visit.fetchPage false = .error message → ∀ log',
      Obeys env.policy (performed (fallback message) log') ↔
        (∀ target ∈ log'.requested, accepts env.policy target = true) ∧ P) :
    Obeys env.policy (performed (visitPage url visit >>= fun
      | .ok document => returnRendered env url document
      | .error message => fallback message) log) ↔
      (∀ target ∈ log.requested, accepts env.policy target = true) ∧ Confined env url visit ∧
        ((∃ message, visit.fetchPage false = .error message) → P) := by
  have hvisit : performed (visitPage url visit) log =
      (.ok (visit.fetchPage false),{log with requested := log.requested ++ url::visit.followed}) := rfl
  rw [performed_bind,hvisit]
  cases hdocument : visit.fetchPage false with
  | ok document =>
    simp only [obeys_returnRendered hdocument,List.forall_mem_append,List.forall_mem_cons,Confined,hdocument]
    simp [hurl,and_assoc]
  | error message =>
    simp only [hfallback message hdocument,List.forall_mem_append,List.forall_mem_cons,Confined,hdocument]
    simp [hurl,and_assoc]

lemma obeys_delivered (hurl : accepts env.policy url = true)
    (hfetched : accepts env.policy fetched.finalUrl = true) (log : FetchLog) :
    Obeys env.policy (performed (if renderedBackendReady env && evidenceLooksThin fetched then do
        match ← visitPage url env.renderedAgain with
        | .ok document => returnRendered env url document
        | .error _ => pure (some fetched)
      else pure (some fetched)) log) ↔
      (∀ target ∈ log.requested, accepts env.policy target = true) ∧
        (renderedBackendReady env = true → evidenceLooksThin fetched = true → Confined env url env.renderedAgain) := by
  have hreturn : ∀ log', Obeys env.policy (performed (pure (some fetched)) log') ↔
      (∀ target ∈ log'.requested, accepts env.policy target = true) ∧ True := by
    intro log'
    simp [Obeys,hfetched]
  split
  next hboth =>
    obtain ⟨hready,hthin⟩ := Bool.and_eq_true_iff.1 hboth
    rw [obeys_visitPage hurl fun _ _ => hreturn]
    simp [hready,hthin]
  next hboth =>
    rw [hreturn]
    have hnot : renderedBackendReady env = true → evidenceLooksThin fetched = true →
        Confined env url env.renderedAgain :=
      fun hready hthin => absurd (Bool.and_eq_true_iff.2 ⟨hready,hthin⟩) hboth
    exact and_congr_right fun _ => ⟨fun _ => hnot,fun _ => trivial⟩

lemma obeys_fetchBrokered (h : isSafeBrowsingUrl url env.policy = .ok host) (log : FetchLog) :
    Obeys env.policy (performed (fetchBrokered env url) log) ↔
      (∀ target ∈ log.requested, accepts env.policy target = true) ∧ BrokeredConfined env url := by
  obtain ⟨hrequested,hreturned⟩ := performed_fetchUrlViaBroker h log
  rw [fetchBrokered,performed_bind]
  rcases hbroker : performed (fetchUrlViaBroker env url) log with ⟨error | _ | fetched,log'⟩ <;>
    simp only [hbroker] at hrequested hreturned
  · have hnone : ∀ fetched, ¬Delivered env url fetched := fun fetched => by simp [← hreturned fetched]
    simp [Obeys,hrequested,BrokeredConfined,hnone,or_imp,forall_and]
  · have hnone : ∀ fetched, ¬Delivered env url fetched := fun fetched => by simp [← hreturned fetched]
    simp [Obeys,hrequested,BrokeredConfined,hnone,or_imp,forall_and]
  · have hfetched : Delivered env url fetched := (hreturned fetched).1 rfl
    have hthin : (∃ fetched, Delivered env url fetched ∧ evidenceLooksThin fetched = true) ↔
        evidenceLooksThin fetched = true := by
      simp [← hreturned]
    refine (obeys_delivered (accepts_of_ok h) hfetched.accepted log').trans ?_
    rw [hrequested,List.forall_mem_append,BrokeredConfined,hthin,and_assoc]

end Hops

def plainDocuments : Documents where
  extractTitle _ := none
  normalizeWhitespace := id
  stripActiveHtml := id
  hashText := id
  detectInjectionFlags _ := []
  utcNow := "2026-01-01 00:00:00"

/-- A server that redirects over an address of the local network to itself. -/
def redirected : Environment where
  documents := plainDocuments
  cefAvailable := false
  curl := {
    redirects := ["http://169.254.169.254/latest/meta-data/","https://example.com/done"]
    contentType := "text/plain", body := .ok "done"}

/-- A page that navigates the rendered browser to an address of the local network. -/
def navigated : Environment where
  documents := plainDocuments
  rendered := {
    targets := ["http://10.0.0.1/admin"], frame := .ok (some ⟨"http://10.0.0.1/admin","secret",""⟩)}

end Naim.Browsing
