/-!
# Starter diagrams

The Mermaid texts that a new session is offered, in the order in which they are shown.
-/

namespace DiagramBridge.Mermaid

/-- A Mermaid text to start from. -/
structure Template where
  id : String
  name : String
  description : String
  code : String

namespace Template

/-- The kind of text that every template is. -/
def type : String := "mermaid"

/-- Lines as a text without a line break at the end. -/
def joinLines (lines : List String) : String :=
  String.intercalate "\n" lines

/-- Simple flowchart with decision. -/
def flowchartBasic : Template where
  id := "flowchart-basic"
  name := "Basic Flowchart"
  description := "Simple flowchart with decision"
  code := joinLines [
    "flowchart TD",
    "    A[Start] --> B\x7bCondition?\x7d",
    "    B -->|Yes| C[Action 1]",
    "    B -->|No| D[Action 2]",
    "    C --> E[End]",
    "    D --> E"]

/-- Multi-step process flow. -/
def flowchartProcess : Template where
  id := "flowchart-process"
  name := "Business Process"
  description := "Multi-step process flow"
  code := joinLines [
    "flowchart LR",
    "    A[Request] --> B[Review]",
    "    B --> C\x7bApproved?\x7d",
    "    C -->|Yes| D[Processing]",
    "    C -->|No| E[Rejected]",
    "    D --> F[Completed]",
    "    E --> G[Notify]"]

/-- Sequence diagram for API calls. -/
def sequenceApi : Template where
  id := "sequence-api"
  name := "API Sequence"
  description := "Sequence diagram for API calls"
  code := joinLines [
    "sequenceDiagram",
    "    participant C as Client",
    "    participant S as Server",
    "    participant DB as Database",
    "",
    "    C->>S: GET /api/data",
    "    S->>DB: SELECT * FROM data",
    "    DB-->>S: Results",
    "    S-->>C: JSON Response"]

/-- User authentication flow. -/
def sequenceAuth : Template where
  id := "sequence-auth"
  name := "Authentication"
  description := "User authentication flow"
  code := joinLines [
    "sequenceDiagram",
    "    actor U as User",
    "    participant A as App",
    "    participant Auth as Auth Service",
    "    participant DB as Database",
    "",
    "    U->>A: Login (email, password)",
    "    A->>Auth: Validate credentials",
    "    Auth->>DB: Check user",
    "    DB-->>Auth: User data",
    "    Auth-->>A: JWT Token",
    "    A-->>U: Login success"]

/-- Model-View-Controller architecture. -/
def classMvc : Template where
  id := "class-mvc"
  name := "MVC Class Diagram"
  description := "Model-View-Controller architecture"
  code := joinLines [
    "classDiagram",
    "    class Controller \x7b",
    "        +handleRequest()",
    "        +sendResponse()",
    "    \x7d",
    "    class Model \x7b",
    "        -data",
    "        +getData()",
    "        +setData()",
    "    \x7d",
    "    class View \x7b",
    "        +render()",
    "        +update()",
    "    \x7d",
    "",
    "    Controller --> Model",
    "    Controller --> View",
    "    View --> Model"]

/-- State diagram for order processing. -/
def stateOrder : Template where
  id := "state-order"
  name := "Order States"
  description := "State diagram for order processing"
  code := joinLines [
    "stateDiagram-v2",
    "    [*] --> Pending",
    "    Pending --> Processing: Confirm",
    "    Processing --> Shipped: Dispatch",
    "    Shipped --> Delivered: Deliver",
    "    Delivered --> [*]",
    "",
    "    Processing --> Cancelled: Cancel",
    "    Pending --> Cancelled: Cancel",
    "    Cancelled --> [*]"]

/-- Entity-Relationship for online store. -/
def erEcommerce : Template where
  id := "er-ecommerce"
  name := "E-commerce ER"
  description := "Entity-Relationship for online store"
  code := joinLines [
    "erDiagram",
    "    CUSTOMER ||--o\x7b ORDER : places",
    "    ORDER ||--|\x7b LINE-ITEM : contains",
    "    PRODUCT ||--o\x7b LINE-ITEM : \"ordered in\"",
    "    CUSTOMER \x7b",
    "        int id PK",
    "        string name",
    "        string email",
    "    \x7d",
    "    ORDER \x7b",
    "        int id PK",
    "        date created",
    "        string status",
    "    \x7d",
    "    PRODUCT \x7b",
    "        int id PK",
    "        string name",
    "        float price",
    "    \x7d"]

/-- Gantt diagram for project management. -/
def ganttProject : Template where
  id := "gantt-project"
  name := "Project Schedule"
  description := "Gantt diagram for project management"
  code := joinLines [
    "gantt",
    "    title Project Schedule",
    "    dateFormat YYYY-MM-DD",
    "",
    "    section Planning",
    "    Analysis           :a1, 2024-01-01, 7d",
    "    Design             :a2, after a1, 5d",
    "",
    "    section Development",
    "    Backend            :b1, after a2, 14d",
    "    Frontend           :b2, after a2, 14d",
    "",
    "    section Testing",
    "    Tests              :c1, after b1, 7d",
    "    Deploy             :c2, after c1, 3d"]

/-- Budget distribution. -/
def pieBudget : Template where
  id := "pie-budget"
  name := "Pie Chart"
  description := "Budget distribution"
  code := joinLines [
    "pie showData",
    "    title Budget Distribution",
    "    \"Development\" : 45",
    "    \"Design\" : 20",
    "    \"Marketing\" : 15",
    "    \"Operations\" : 12",
    "    \"Others\" : 8"]

/-- Idea organization. -/
def mindmapIdeas : Template where
  id := "mindmap-ideas"
  name := "Mind Map"
  description := "Idea organization"
  code := joinLines [
    "mindmap",
    "  root((Project))",
    "    Phase 1",
    "      Research",
    "      Analysis",
    "    Phase 2",
    "      Design",
    "      Prototype",
    "    Phase 3",
    "      Development",
    "      Testing"]

def all : List Template :=
  [flowchartBasic, flowchartProcess, sequenceApi, sequenceAuth, classMvc,
    stateOrder, erEcommerce, ganttProject, pieBudget, mindmapIdeas]

def ofId? (id : String) : Option Template :=
  all.find? (·.id == id)

end Template

end DiagramBridge.Mermaid
