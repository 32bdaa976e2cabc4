import TrueMark.System.Reachable

namespace TrueMark.System
open Ecma Aptos Qr React Runs Contract

/-- However many dashboards, users and accounts there are and whatever they do, a user only ever sees a
panel for one of the two products that the dashboard starts with, from a code that a dashboard drew
at most a day before it was scanned, and only next to an error message. -/
theorem verdict_origin {deployment : Deployment} {events : List Event} {world : World}
    (reach : Reach (step deployment) (Faithful deployment) .initial events world) {user : Nat}
    {screen : UserApp.Closure} (shown : (world.apps user).component.screen = some screen)
    {result : UserApp.ProductResult} (panel : screen.state.result = some result) :
    result.isAuthentic = .boolean true ∧ screen.state.error ≠ [] ∧
      ∃ decodedText now properties product, .scanned decodedText now ∈ (world.apps user).trace ∧
        Json.parse decodedText = some (.object properties) ∧ Genuine world now properties product ∧
        result.serialNumber = product.id ∧ result.productName = .string product.name ∧
        result.manufacturer = .string product.manufacturer := by
  obtain ⟨failed, decodedText, now, properties, scanned, parsed, valid, rfl⟩ :=
    (reach_panels reach user).2 screen shown result panel
  obtain ⟨others, _, same, _, _, _, _, signed⟩ := verifyQRCode_valid.mp valid
  obtain rfl := JsValue.object.inj same
  obtain ⟨product, genuine⟩ := accepted_genuine deployment (reach_unregistered reach)
    (reach_scansSigned reach user decodedText now properties scanned parsed signed) parsed valid
  exact ⟨rfl, failed, decodedText, now, properties, product, scanned, parsed, genuine, genuine.shown⟩

theorem verdict_origin_premiumHeadphones :
    ∃ events world screen result, Reach (step sampleDeployment) (Faithful sampleDeployment) .initial events world ∧
      (world.apps 0).component.screen = some screen ∧ screen.state.result = some result ∧ screen.state.error ≠ [] ∧
      ∃ decodedText now properties product, .scanned decodedText now ∈ (world.apps 0).trace ∧
        Json.parse decodedText = some (.object properties) ∧ Genuine world now properties product := by
  obtain ⟨events, world, screen, ticket, reach, _, _, shown, panel⟩ :=
    @scan_reaches sampleDeployment sampleSigner_nonempty [] .initial .start 0 0 premiumHeadphones
      List.mem_cons_self sampleTime sampleTime (by decide) le_rfl (by decide)
  obtain ⟨_, failed, decodedText, now, properties, product, scanned, parsed, genuine, _⟩ :=
    verdict_origin reach shown panel
  exact ⟨events, world, screen, _, reach, shown, panel, failed, decodedText, now, properties, product, scanned, parsed,
    genuine⟩

/-- Whatever has happened before, a dashboard can still draw the code of a listed product, and a user who scans
it within a day gets to the panel of that product. -/
theorem verdict_reachable {deployment : Deployment}
    (nonempty : ∀ message, deployment.signer.hmacSHA256 message deployment.signer.signingSecret ≠ [])
    {events : List Event} {world : World} (reach : Reach (step deployment) (Faithful deployment) .initial events world)
    (office user : Nat) {product : Qr.Product} (initial : product ∈ initialProducts) {issued now : TimeValue}
    (positive : 0 < issued.milliseconds) (later : issued.milliseconds ≤ now.milliseconds)
    (fresh : now.milliseconds ≤ issued.milliseconds + 86400000) :
    ∃ more world' screen result ticket, Reach (step deployment) (Faithful deployment) world more world' ∧
      .drawing ticket product issued ∈ (world'.pages office).trace ∧
      .scanned (qrData deployment.signer product issued) now ∈ (world'.apps user).trace ∧
      (world'.apps user).component.screen = some screen ∧ screen.state.result = some result ∧
      result.isAuthentic = .boolean true ∧ result.serialNumber = product.id ∧
      result.productName = .string product.name ∧ result.manufacturer = .string product.manufacturer := by
  obtain ⟨more, world', screen, ticket, further, drawing, scanned, shown, panel⟩ :=
    scan_reaches nonempty reach office user initial positive later fresh
  exact ⟨more, world', screen, _, ticket, further, drawing, scanned, shown, panel, rfl, signedData_id ..,
    signedData_name .., signedData_manufacturer ..⟩

theorem verdict_reachable_organicGreenTea :
    ∃ more world' screen result ticket, Reach (step sampleDeployment) (Faithful sampleDeployment) .initial more world' ∧
      .drawing ticket organicGreenTea sampleTime ∈ (world'.pages 0).trace ∧
      .scanned (qrData sampleSigner organicGreenTea sampleTime) sampleTime ∈ (world'.apps 7).trace ∧
      (world'.apps 7).component.screen = some screen ∧ screen.state.result = some result ∧
      result.serialNumber = .string (js "2") := by
  obtain ⟨more, world', screen, result, ticket, reach, drawing, scanned, shown, panel, _, serial, _⟩ :=
    @verdict_reachable sampleDeployment sampleSigner_nonempty [] .initial .start 0 7 organicGreenTea
      (List.mem_cons_of_mem _ List.mem_cons_self) sampleTime sampleTime (by decide) le_rfl (by decide)
  exact ⟨more, world', screen, result, ticket, reach, drawing, scanned, shown, panel, serial⟩

/-- No browser is ever taken down: all along a run, all pages and all apps are mounted and their next
render succeeds. -/
theorem always_alive {deployment : Deployment} {events : List Event} {world : World}
    (reach : Reach (step deployment) (Faithful deployment) .initial events world) :
    Throughout (step deployment) .initial events (Alive deployment) :=
  reach.throughout fun earlier => reach_alive earlier

/-- An office tries to add a product, which fails with its count, and draws a code. -/
def officeDay : List Dashboard.Event :=
  Dashboard.fillForm ++ [.clickAdd] ++
    [.counted 0 (.rejected (js "Function not found")) sampleTime sampleTime, .render, .clickGenerate 0 sampleTime]

/-- A user asks the chain about a product, which fails, and scans that code. -/
def userDay : List UserApp.Event :=
  [.edit (js "1"), .clickVerify, .connection ⟨0, js "1", .connecting 0⟩ 0 UserApp.ledgerInfo,
    .resumed ⟨0, js "1", .connected true⟩ true sampleTime,
    .response ⟨0, js "1", .querying⟩ (.rejected (js "Function not found")) sampleTime, .render] ++
  [.edit [], .clickScan] ++ [.scan (qrData sampleSigner premiumHeadphones sampleTime) sampleTime]

def initialisation : Transaction := ⟨configuredAddress sampleAddress, .initRegistry, 1⟩

def registration : Transaction := ⟨configuredAddress sampleAddress, .registerProduct "1" "Luxury Watch", 2⟩

/-- A product is registered on the chain while an office and a user go about their business. -/
def busyDay : List Event :=
  [.transaction initialisation] ++ officeDay.map (Event.page 0) ++ [.transaction registration] ++
    userDay.map (Event.app 0)

theorem reach_officeDay :
    ∃ page screen, Reach (Dashboard.step sampleDeployment.dashboard) anything .initial officeDay page ∧
      page.component.screen = some screen ∧ .called 0 (Dashboard.countPayload sampleDeployment.dashboard) ∈ page.trace ∧
      .drawing 1 premiumHeadphones sampleTime ∈ page.trace :=
  ⟨_, _, Dashboard.reach_adding.append (reach_iff_follow.mpr rfl), rfl, List.mem_cons_self,
    List.mem_cons_of_mem _ (List.mem_cons_of_mem _ List.mem_cons_self)⟩

theorem reach_userDay : ∃ app, Reach (UserApp.step sampleDeployment.userApp) anything .initial userDay app := by
  obtain ⟨asked, screen, reach, shown, closed⟩ : ∃ asked screen, Reach (UserApp.step sampleDeployment.userApp) anything
      .initial (userDay.take 6) asked ∧ asked.component.screen = some screen ∧ screen.state.showScanner = false :=
    ⟨_, _, reach_iff_follow.mpr rfl, rfl, rfl⟩
  obtain ⟨opened, closure, opening, openShown, scanner, empty⟩ :=
    UserApp.edit_open sampleDeployment.userApp shown closed
  have accepted := (@verifyQRCode_signedData premiumHeadphones (js "1") sampleTime sampleEngine sampleSigner
    sampleTime rfl (by decide) sampleSigner_nonempty).mpr (by decide)
  obtain ⟨scanned, run, _⟩ := UserApp.scan_empty_shows sampleDeployment.userApp scanner empty openShown
    (parse_qrData sampleSigner (carried_string _) (by decide)) accepted
  exact ⟨scanned, (reach.append opening).next trivial run⟩

theorem reach_busyDay :
    ∃ world screen, Reach (step sampleDeployment) (Faithful sampleDeployment) .initial busyDay world ∧
      (world.pages 0).component.screen = some screen ∧
      .called 0 (Dashboard.countPayload sampleDeployment.dashboard) ∈ (world.pages 0).trace := by
  obtain ⟨page, screen, office, shown, called, drawing⟩ := reach_officeDay
  obtain ⟨app, user⟩ := reach_userDay
  obtain ⟨pages, worked, here⟩ := @lift_page sampleDeployment
    ⟨[initialisation], World.initial.pages, World.initial.apps⟩ 0 _ _ office (by simp [officeDay, Dashboard.fillForm, Faithful, Answers, sampleTime])
  rw [← here] at shown called drawing
  have genuine (apps : Nat → UserApp.App) : Unforged sampleDeployment ⟨[initialisation, registration], pages, apps⟩
      (qrData sampleSigner premiumHeadphones sampleTime) := unforged_drawn drawing (carried_string _) (by decide)
  obtain ⟨apps, asked, _⟩ := @lift_app sampleDeployment ⟨[initialisation, registration], pages, World.initial.apps⟩
    0 _ _ user (by simpa [userDay, Faithful, Answers] using genuine)
  have initialised : Reach (step sampleDeployment) (Faithful sampleDeployment) .initial
      [.transaction initialisation] _ := .prepend trivial rfl .start
  have registered : Reach (step sampleDeployment) (Faithful sampleDeployment)
      ⟨[initialisation], pages, World.initial.apps⟩ [.transaction registration] _ := .prepend trivial rfl .start
  exact ⟨_, screen, ((initialised.append worked).append registered).append asked, shown, called⟩

theorem always_alive_busyDay : Throughout (step sampleDeployment) .initial busyDay (Alive sampleDeployment) := by
  obtain ⟨world, screen, reach, _⟩ := reach_busyDay
  exact always_alive reach

/-- In no run does a dashboard get beyond its two initial products: they are all that its table and its QR
dialog ever show, and every add that was started still waits or has failed with its count. -/
theorem registry_untouched {deployment : Deployment} {events : List Event} {world : World}
    (reach : Reach (step deployment) (Faithful deployment) .initial events world) (office : Nat)
    {screen : Dashboard.Closure} (shown : (world.pages office).component.screen = some screen) :
    screen.state.products = initialProducts ∧
      (∀ product, screen.state.selectedProduct = some product → product ∈ initialProducts) ∧
      (∀ ticket product issued, .drawing ticket product issued ∈ (world.pages office).trace →
        product ∈ initialProducts) ∧
      ∀ ticket payload, .called ticket payload ∈ (world.pages office).trace →
        (∃ add ∈ (world.pages office).adds, add.ticket = ticket ∧ add.phase = .counting) ∨
          ∃ message, .failed ticket (js "Failed to get product count: " ++ message) ∈ (world.pages office).trace := by
  have unregistered := reach_unregistered reach office
  refine ⟨unregistered.products.2 screen shown, unregistered.selected.2 screen shown,
    fun ticket product issued drawing => (unregistered.drawn ticket product issued drawing).1,
    fun ticket payload called => ?_⟩
  rcases unregistered.ended ticket payload called with ⟨add, member, same⟩ | failed
  · exact Or.inl ⟨add, member, same, unregistered.waiting add member⟩
  · exact Or.inr failed

theorem registry_untouched_busyDay :
    ∃ world screen, Reach (step sampleDeployment) (Faithful sampleDeployment) .initial busyDay world ∧
      (world.pages 0).component.screen = some screen ∧ screen.state.products = initialProducts ∧
      ((∃ add ∈ (world.pages 0).adds, add.ticket = 0 ∧ add.phase = .counting) ∨
        ∃ message, .failed 0 (js "Failed to get product count: " ++ message) ∈ (world.pages 0).trace) := by
  obtain ⟨world, screen, reach, shown, called⟩ := reach_busyDay
  obtain ⟨products, _, _, ended⟩ := registry_untouched reach 0 shown
  exact ⟨world, screen, reach, shown, products, ended 0 _ called⟩

def Event.isTransaction : Event → Bool
  | .transaction _ => true
  | _ => false

/-- The chain does not matter: without its transactions, the same run leaves all pages and apps as they are. -/
theorem chain_irrelevant {deployment : Deployment} {events : List Event} {world : World}
    (reach : Reach (step deployment) (Faithful deployment) .initial events world) :
    Reach (step deployment) (Faithful deployment) .initial (events.filter fun event => !event.isTransaction)
      { world with history := [] } := by
  induction reach with
  | start => exact .start
  | @next events before event after _ faithful run ih =>
    rw [List.filter_append]
    cases event with
    | transaction transaction =>
      cases run
      simpa [Event.isTransaction] using ih
    | page office event =>
      obtain ⟨page, taken, rfl⟩ := Option.map_eq_some_iff.mp run
      refine .next ih ?_ (by simp only [step, taken, Option.map_some])
      cases event with
      | counted ticket reply now issued => exact ⟨Or.inl (count_rejected faithful.1), faithful.2⟩
      | clickGenerate row issued => exact faithful
      | _ => trivial
    | app user event =>
      obtain ⟨app, taken, rfl⟩ := Option.map_eq_some_iff.mp run
      refine .next ih ?_ (by simp only [step, taken, Option.map_some])
      cases event with
      | response verification reply now => exact Or.inl (product_rejected faithful)
      | scan decodedText now => exact faithful
      | _ => trivial

theorem chain_irrelevant_busyDay :
    ∃ world, Reach (step sampleDeployment) (Faithful sampleDeployment) .initial
      (officeDay.map (Event.page 0) ++ userDay.map (Event.app 0)) world := by
  obtain ⟨world, screen, reach, _⟩ := reach_busyDay
  exact ⟨_, chain_irrelevant reach⟩

end TrueMark.System
