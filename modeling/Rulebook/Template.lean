import Rulebook.Builder
import Rulebook.Rule
import Rulebook.Text.Blank
import Rulebook.Text.LowerCase
import Rulebook.Value.Equality

/-!
# Templates

Rules that tenants take over ready made. A template has a category, a name and parameters, and
builds a rule from arguments for them. What a template shows to a customer is in French.

## Main definitions

* `Draft`, `Rule.ofDraft`: a rule made in code, with an id made from its name;
* `Template`, `Template.catalogue`;
* `Template.find?`, `Template.instantiate?`: looking up and building.
-/

namespace Rulebook

/-! ### Rules made in code -/

/-- What a rule made in code says about itself. -/
structure Draft where
  name : String
  kind : RuleKind
  description : Value
  trigger : Value
  guard : Guard
  actions : List Instruction
  priority : Value

namespace Rule

/-- The id of a rule made in code: its name in lower case, without blanks. -/
def idOfName (name : String) : String :=
  "template_" ++ String.ofList (Text.joinBlanks '_' (Text.lower name.toList))

/-- The rule of a draft, which belongs to no tenant. -/
def ofDraft (now : Timestamp) (d : Draft) : Rule where
  id := .text (idOfName d.name)
  name := .text d.name
  kind := d.kind
  trigger := d.trigger.orElse defaultTrigger
  guard := d.guard
  actions := .inl d.actions
  priority := d.priority.orElse defaultPriority
  active := .bool true
  tenantId := .null
  description := d.description
  created := now
  updated := now

end Rule

/-! ### Templates -/

/-- A rule that is ready but for some arguments. -/
structure Template where
  category : String
  signature : Signature
  draft : Bound Value → Except Fault Draft

namespace Template

/-- The name of a template. -/
def name (t : Template) : String := t.signature.name

/-- The argument of a parameter. -/
def argument (b : Bound Value) (parameter : String) : Value := b.getD parameter .absent

/-- A rule of a template: its texts, its condition, its actions and its priority. -/
def ready (name : String) (kind : RuleKind) (description trigger : String) (c : Condition)
    (actions : List Action) (priority : Int) : Draft where
  name
  kind
  description := .text description
  trigger := .text trigger
  guard := .typed (some c)
  actions := actions.map .typed
  priority := .int priority

/-! ### Validation -/

/-- Reports orders below a minimum amount. -/
def minOrderAmount : Template where
  category := "validation"
  signature := ⟨"min_order_amount", ["min_amount"], ["currency"]⟩
  draft b := do
    let least := argument b "min_amount"
    let amount := (← least.toText?) ++ " " ++ (← (b.getD "currency" (.text "DZD")).plain?)
    return ready "Minimum Order Amount" .validation ("Order must be at least " ++ amount)
      "order.validate" (.test .less (.text "entity.total") least)
      [.reportError (.text ("Le montant minimum de commande est " ++ amount))] 10

/-- Reports products that are out of stock. -/
def requireStock : Template where
  category := "validation"
  signature := ⟨"require_stock", [], []⟩
  draft _ := .ok <| ready "Stock Availability" .validation "Product must have stock available"
    "cart.add" (.test .atMost (.text "entity.stock_quantity") (.int 0))
    [.reportError (.text "Ce produit est en rupture de stock")] 5

/-- A condition on the business type of a tenant. -/
def businessIs (type : String) : Condition :=
  .test .equal (.text "tenantConfig.business_type") (.text type)

/-- Reports products of nutrition shops without calories. -/
def requireNutritionInfo : Template where
  category := "validation"
  signature := ⟨"require_nutrition_info", [], []⟩
  draft _ := .ok <| ready "Require Nutrition Info" .validation
    "Products must have calorie information" "product.save"
    (.allOf [businessIs "nutrition", .probe .empty (.text "entity.custom_data.calories")])
    [.reportError (.text "Les informations nutritionnelles (calories) sont requises")] 20

/-- Reports articles of clothing shops without a size. -/
def requireSizeSelection : Template where
  category := "validation"
  signature := ⟨"require_size_selection", [], []⟩
  draft _ := .ok <| ready "Require Size Selection" .validation
    "Size must be selected before adding to cart" "cart.add"
    (.allOf [businessIs "clothing", .probe .empty (.text "entity.selected_size")])
    [.reportError (.text "Veuillez sélectionner une taille")] 15

/-! ### Calculation -/

/-- Adds a percentage of the total of an order. -/
def serviceCharge : Template where
  category := "calculation"
  signature := ⟨"service_charge", ["percentage"], []⟩
  draft b := do
    let percentage := argument b "percentage"
    let amount ← percentage.toText?
    return ready "Service Charge" .calculation ("Add " ++ amount ++ "% service charge")
      "order.calculate" (.test .greater (.text "entity.total") (.int 0))
      [.addFee (.text "service_charge") percentage .null] 50

/-- Drops the delivery fee from a subtotal on. -/
def freeDeliveryThreshold : Template where
  category := "calculation"
  signature := ⟨"free_delivery_threshold", ["threshold"], []⟩
  draft b := do
    let threshold := argument b "threshold"
    let amount ← threshold.toText?
    return ready "Free Delivery" .calculation
      ("Free delivery for orders above " ++ amount) "order.calculate"
      (.test .atLeast (.text "entity.subtotal") threshold)
      [.setField (.text "delivery_fee") (.int 0),
        .setField (.text "free_delivery_applied") (.bool true)] 60

/-- Adds up the calories of an order. -/
def calculateTotalCalories : Template where
  category := "calculation"
  signature := ⟨"calculate_total_calories", [], []⟩
  draft _ := .ok <| ready "Calculate Total Calories" .calculation "Sum calories from all items"
    "order.calculate" (businessIs "nutrition")
    [.aggregate (.text "total_calories") (.text "sum") (.text "entity.items.*.calories")] 70

/-- Gives a discount from a number of items on. -/
def bulkDiscount : Template where
  category := "calculation"
  signature := ⟨"bulk_discount", ["min_quantity", "discount_percent"], []⟩
  draft b := do
    let quantity := argument b "min_quantity"
    let discount := argument b "discount_percent"
    let percent ← discount.toText?
    let amount ← quantity.toText?
    return ready "Bulk Discount" .calculation
      (percent ++ "% off for " ++ amount ++ "+ items") "order.calculate"
      (.test .atLeast (.text "entity.item_count") quantity)
      [.setField (.text "bulk_discount_percent") discount,
        .setField (.text "bulk_discount_applied") (.bool true)] 40

/-! ### Workflows -/

/-- Sends orders of restaurants to the kitchen. -/
def sendToKitchen : Template where
  category := "workflow"
  signature := ⟨"send_to_kitchen", [], []⟩
  draft _ := .ok <| ready "Send to Kitchen" .workflow "Route order to kitchen display"
    "order.placed"
    (.allOf [businessIs "restaurant",
      .test .among (.text "entity.order_type") (.list [.text "dine_in", .text "takeaway"])])
    [.setField (.text "kitchen_status") (.text "pending"),
      .notify (.text "Nouvelle commande en cuisine"),
      .triggerWorkflow (.text "kitchen_display")] 10

/-- Notifies when little stock is left. -/
def lowStockAlert : Template where
  category := "workflow"
  signature := ⟨"low_stock_alert", ["threshold"], []⟩
  draft b := do
    let threshold := argument b "threshold"
    let stock : Value := .text "entity.stock_quantity"
    let amount ← threshold.toText?
    return ready "Low Stock Alert" .workflow ("Alert when stock falls below " ++ amount)
      "inventory.update"
      (.allOf [.test .atMost stock threshold, .test .greater stock (.int 0)])
      [.notify (.text ("Stock bas: " ++ amount ++ " unités restantes")),
        .setField (.text "low_stock_alert") (.bool true)] 30

/-- Confirms orders that are picked up. -/
def autoConfirmPickup : Template where
  category := "workflow"
  signature := ⟨"auto_confirm_pickup", [], []⟩
  draft _ := .ok <| ready "Auto Confirm Pickup" .workflow "Automatically confirm pickup orders"
    "order.placed" (.test .equal (.text "entity.delivery_method") (.text "pickup"))
    [.setField (.text "status") (.text "confirmed"),
      .notify (.text "Commande confirmée automatiquement (retrait)")] 20

/-! ### Constraints -/

/-- Limits the quantity of one product. -/
def maxQuantityPerProduct : Template where
  category := "constraint"
  signature := ⟨"max_quantity_per_product", ["max_qty"], []⟩
  draft b := do
    let most := argument b "max_qty"
    let amount ← most.toText?
    return ready "Max Quantity Per Product" .constraint
      ("Maximum " ++ amount ++ " units per product") "cart.update"
      (.test .greater (.text "entity.quantity") most)
      [.setField (.text "quantity") most,
        .reportError (.text ("Maximum " ++ amount ++ " unités par produit"))] 10

/-- Reports orders before opening and from closing on. -/
def businessHours : Template where
  category := "constraint"
  signature := ⟨"business_hours", ["open_hour", "close_hour"], []⟩
  draft b := do
    let opens := argument b "open_hour"
    let closes := argument b "close_hour"
    let hour : Value := .text "context.current_hour"
    let first ← opens.toText?
    let last ← closes.toText?
    return ready "Business Hours" .constraint
      ("Orders only between " ++ first ++ "h and " ++ last ++ "h")
      "order.validate" (.anyOf [.test .less hour opens, .test .atLeast hour closes])
      [.reportError (.text ("Commandes acceptées entre " ++ first ++ "h et " ++ last ++ "h"))] 5

/-- Reports deliveries to places that are not allowed. -/
def deliveryZone : Template where
  category := "constraint"
  signature := ⟨"delivery_zone", ["allowed_wilayas"], []⟩
  draft b := do
    let places ← (argument b "allowed_wilayas").items?
    return ready "Delivery Zone" .constraint "Restrict delivery to specific wilayas"
      "order.validate"
      (.allOf [.test .equal (.text "entity.delivery_method") (.text "delivery"),
        .negation (.test .among (.text "entity.shipping_wilaya") (.list places))])
      [.reportError (.text "Livraison non disponible dans cette wilaya")] 15

/-! ### The catalogue -/

/-- All templates, category by category. -/
def catalogue : List Template := [
  minOrderAmount, requireStock, requireNutritionInfo, requireSizeSelection,
  serviceCharge, freeDeliveryThreshold, calculateTotalCalories, bulkDiscount,
  sendToKitchen, lowStockAlert, autoConfirmPickup,
  maxQuantityPerProduct, businessHours, deliveryZone]

/-- The categories in the order of the catalogue. -/
def categories : List String := (catalogue.map (·.category)).eraseDups

/-- The names of the templates of a category. -/
def namesIn (category : String) : List String :=
  (catalogue.filter (·.category = category)).map name

/-- The names of the templates by category, as a value. -/
def listing : Value :=
  .mapping (categories.map fun c => (c, .list ((namesIn c).map .text)))

/-- Reports that there is no template of a category and a name, which the report names. -/
def missing {α : Type} (category name : Value) : Except Failure α :=
  match Refusal.target? category name with
  | .ok _ => .error (.refused (.templateMissing category name))
  | .error fault => .error (.fault fault)

/-- The template of a category and a name. -/
def find? (category name : Value) : Except Failure Template := do
  Fault.orFail category.hashable
  let inCategory := catalogue.filter fun t => category.sameScalar (.text t.category)
  if inCategory.isEmpty then missing category name
  else
    Fault.orFail name.hashable
    match inCategory.find? fun t => name.sameScalar (.text t.name) with
    | some t => return t
    | none => missing category name

/-- The names of the parameters that are not the template's own. -/
def ownParameters : List String := ["category", "name"]

/-- A fault in the arguments of a template is reported as such. -/
def reported {α : Type} (category name : Value) : Except Fault α → Except Failure α
  | .ok a => .ok a
  | .error f =>
    if f.category = .type then .error (.refused (.templateArguments category name f.message))
    else .error (.fault f)

/-- The draft that a template makes of some arguments. -/
def draft? (t : Template) (positional : List Value) (named : List (String × Value)) :
    Except Fault Draft := do
  t.draft (← t.signature.bind? positional named)

/-- Builds the rule of a template. -/
def instantiate? (now : Timestamp) (category name : Value) (positional : List Value)
    (named : List (String × Value)) : Except Failure Rule := do
  if named.any fun e => ownParameters.contains e.1 then
    throw (.fault (.arguments "got multiple values for the category or the name"))
  let t ← find? category name
  return .ofDraft now (← reported category name (t.draft? positional named))

end Template

end Rulebook
