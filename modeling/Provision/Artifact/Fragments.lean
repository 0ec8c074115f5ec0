import Provision.Artifact.Kind
import Provision.Template.Fragment

/-!
# Built-in fragments

The templates that artifacts are made of.  The recipes that install a tool are the same for both
kinds of artifact; each kind adds the fragments for its own layout.  Fragments are listed in the
order in which an engine registers them, the common ones first.
-/

namespace Provision

namespace Fragment

def extractTar : String := r#"{% set refs = {"vars": var_dict(tool.name, tool.vars), "global": var_dict("", config.vars)} %}
{% set compression = tool.installer.archive.compression %}
{% set flags = {"none": "", "gzip": "z", "bzip2": "j", "xz": "J", "zstd": ""} %}
{{ config.commands.tar }} {{ "--zstd " if compression == "zstd" else "" }}-x{{ flags[compression] }}Of {{ ref(archive_identifier(tool.name)) }} {{ tpl(tool.installer.archive.path, refs) }} > {{ ref(identifier(tool.name)) }}
"#

def extractZip : String := r#"{% set refs = {"vars": var_dict(tool.name, tool.vars), "global": var_dict("", config.vars)} %}
{{ config.commands.unzip }} -p {{ ref(archive_identifier(tool.name)) }} {{ tpl(tool.installer.archive.path, refs) }} > {{ ref(identifier(tool.name)) }}
"#

def installGo : String := r#"{% set refs = {"vars": var_dict(tool.name, tool.vars), "global": var_dict("", config.vars)} %}
{% set local = ref(config.local_bin_var) %}
{% set go = ref(identifier(runner)) if runner else config.commands.go %}
{% for key, value in tool.installer.env | items %}{{ key }}={{ tpl(value, refs) }} {% endfor %}GOBIN={{ local }} {{ go }} install{% for flag in tool.installer.flags %} {{ tpl(flag, refs) }}{% endfor %} {{ tpl(tool.package, refs) }}@{{ tpl(tool.installer.version, refs) }}
{% if tool.installer.binary != tool.name %}
{{ config.commands.mv }} -f {{ local }}/{{ tool.installer.binary }} {{ ref(identifier(tool.name)) }}
{% endif %}
"#

def installHttp : String := r#"{% set bin = ref(identifier(tool.name)) %}
{% set url = ref(url_identifier(tool.name)) %}
{% if tool.installer.archive %}
{% set archive = ref(archive_identifier(tool.name)) %}
{{ config.commands.curl }} -fsSL -o {{ archive }} {{ url }}
{{ include("extract/" ~ tool.installer.archive.kind, {"tool": tool, "config": config}) | trim }}
{{ config.commands.rm }} -f {{ archive }}
{% else %}
{{ config.commands.curl }} -fsSL -o {{ bin }} {{ url }}
{% endif %}
{{ config.commands.chmod }} +x {{ bin }}
"#

def installMaven : String := r#"{% set refs = {"vars": var_dict(tool.name, tool.vars), "global": var_dict("", config.vars)} %}
{% set dir = ref(config.local_bin_var) ~ "/.make-env/maven/" ~ tool.name %}
{% set mvn = ref(identifier(runner)) if runner else config.commands.mvn %}
{% set bin = ref(identifier(tool.name)) %}
{{ config.commands.rm }} -rf {{ dir }}
{{ mvn }} -q dependency:copy -Dartifact={{ tpl(tool.installer.artifact, refs) }} -DoutputDirectory={{ dir }}
{{ config.commands.mv }} -f {{ dir }}/*.jar {{ dir }}/{{ tool.name }}.jar
printf '#!/bin/sh\nexec %s -jar %s "\044@"\n' '{{ config.commands.java }}' "{{ dir }}/{{ tool.name }}.jar" > {{ bin }}
{{ config.commands.chmod }} +x {{ bin }}
"#

def installPipx : String := r#"{% set refs = {"vars": var_dict(tool.name, tool.vars), "global": var_dict("", config.vars)} %}
{% set home = ref(config.local_bin_var) ~ "/.make-env/pipx" %}
{% set pipx = ref(identifier(runner)) if runner else config.commands.pipx %}
{% set version = tool.installer.version %}
PIPX_HOME={{ home }} PIPX_BIN_DIR={{ home }}/bin {{ pipx }} install --force {{ tpl(tool.installer.package, refs) }}{{ "==" ~ tpl(version, refs) if version else "" }}
{{ config.commands.ln }} -sf {{ home }}/bin/{{ tool.installer.app }} {{ ref(identifier(tool.name)) }}
"#

def installProvided : String := r#"command -v {{ ref(identifier(tool.name)) }} >/dev/null
"#

def installS3 : String := r#"{% set bin = ref(identifier(tool.name)) %}
{% set url = ref(url_identifier(tool.name)) %}
{% if tool.installer.archive %}
{% set archive = ref(archive_identifier(tool.name)) %}
{{ config.commands.aws }} s3 cp --only-show-errors {{ url }} {{ archive }}
{{ include("extract/" ~ tool.installer.archive.kind, {"tool": tool, "config": config}) | trim }}
{{ config.commands.rm }} -f {{ archive }}
{% else %}
{{ config.commands.aws }} s3 cp --only-show-errors {{ url }} {{ bin }}
{% endif %}
{{ config.commands.chmod }} +x {{ bin }}
"#

def makefileMain : String := r#"# Code generated by make-env {{ version }}. DO NOT EDIT.
# Source: {{ in_path }} (sha256:{{ config_digest }})
# Output: {{ out_path }}
{% set local = config.local_bin_var %}

{{ local }} ?= $(CURDIR)/bin
$({{ local }}):
	{{ config.commands.mkdir }} -p $@
{% if config.vars %}

{% for key, value in config.vars | items %}
{{ scoped_identifier("", key) }} ?= {{ value | make_value }}
{% endfor %}
{% endif %}
{% for tool in tools %}

{{ include("tool", {"tool": tool, "config": config}) | trim }}
{% endfor %}
{% for name, set in config.tool_sets | items %}

.PHONY: {{ name }}
{{ name }}:{% for member in set.tools %} {{ member }}{% endfor %}

{% endfor %}
"#

def makefileTool : String := r#"{% set id = identifier(tool.name) %}
{% set stamp = stamp_identifier(tool.name) %}
{% set local = ref(config.local_bin_var) %}
{% set refs = {"vars": var_dict(tool.name, tool.vars), "global": var_dict("", config.vars)} %}
{% set ctx = {"tool": tool, "config": config, "runner": tool.runner} %}
# {{ tool.name }} ({{ tool.installer.kind }})
{% for key, value in tool.vars | items %}
{{ scoped_identifier(tool.name, key) }} ?= {{ value | make_value }}
{% endfor %}
{% if tool.provided %}
{{ id }} ?= {{ tool.installer.default | make_value }}
{{ stamp }} :=

.PHONY: {{ tool.name }}
{{ tool.name }}:{{ include(tool.fragment, ctx) | trim | indent_wrap(1) }}
{% else %}
{% if tool.has_url %}
{{ url_identifier(tool.name) }} ?= {{ tpl(tool.installer.url, refs) | make_value }}
{% endif %}
{% if tool.has_archive %}
{{ archive_identifier(tool.name) }} ?= {{ local }}/.make-env/{{ tool.name }}.{{ tool.installer.archive.kind }}
{% endif %}
{{ id }} ?= {{ local }}/{{ tool.name }}
{{ stamp }} ?= {{ local }}/.make-env/{{ tool.name }}@{{ tool.installer_digest }}{% for key in tool.vars %}@$(subst /,_,{{ refs.vars[key] }}){% endfor %}.stamp

.PHONY: {{ tool.name }}
{{ tool.name }}: $({{ stamp }})

$({{ stamp }}):{% for dep in tool.prerequisites %} $({{ stamp_identifier(dep) }}){% endfor %} | {{ local }}
	@{{ config.commands.mkdir }} -p $(dir $@)
	@{{ config.commands.rm }} -f {{ local }}/.make-env/{{ tool.name }}@*.stamp
{{- include(tool.fragment, ctx) | trim | indent_wrap(1) }}
	@{{ config.commands.touch }} $@
{% endif %}
"#

def dockerfileMain : String := r#"# syntax=docker/dockerfile:1
# Code generated by make-env {{ version }}. DO NOT EDIT.
# Source: {{ in_path }} (sha256:{{ config_digest }})
# Output: {{ out_path }}
{% set local = config.local_bin_var %}
{% set docker = config.dockerfile %}

ARG {{ local }}={{ docker.install_dir | arg_value }}
{% for key, value in config.vars | items %}
ARG {{ scoped_identifier("", key) }}={{ value | arg_value }}
{% endfor %}
{% for tool in tools %}
{{ include("tool_args", {"tool": tool, "config": config}) | trim }}
{% endfor %}
{% for tool in tools if not tool.provided %}

{{ include("tool", {"tool": tool, "config": config}) | trim }}
{% endfor %}
{% for name, set in config.tool_sets | items %}

FROM scratch AS {{ docker.stage_prefix }}set-{{ stage_id(name) }}
ARG {{ local }}
{% for member in set.tools if config.tools[member].installer.kind != "provided" %}
COPY --from={{ docker.stage_prefix }}{{ stage_id(member) }} {{ ref(local) }}/ {{ ref(local) }}/
{% endfor %}
{% endfor %}

FROM {{ docker.final_image }} AS {{ docker.final_stage }}
ARG {{ local }}
{% if docker.pre_copy %}
{{ docker.pre_copy | trim }}
{% endif %}
{% for tool in tools if not tool.provided %}
COPY --from={{ docker.stage_prefix }}{{ stage_id(tool.name) }} {{ ref(local) }}/ {{ docker.install_dir }}/
{% endfor %}
ENV PATH="{{ docker.install_dir }}:${PATH}"
{% if docker.post_copy %}
{{ docker.post_copy | trim }}
{% endif %}
"#

def dockerfileScript : String := r#"set -eu
{{ config.commands.mkdir }} -p {{ ref(config.local_bin_var) }}/.make-env
{{ include(tool.fragment, {"tool": tool, "config": config, "runner": none}) | trim }}
"#

def dockerfileTool : String := r#"{% set local = config.local_bin_var %}
{% set docker = config.dockerfile %}
{% set images = {
    "http": docker.fetch_image,
    "s3": docker.s3_image,
    "pipx": docker.python_image,
    "go": docker.go_image,
    "maven": docker.maven_image
} %}
FROM {{ images[tool.installer.kind] }} AS {{ docker.stage_prefix }}{{ stage_id(tool.name) }}
ARG {{ local }}
{% for key in config.vars %}
ARG {{ scoped_identifier("", key) }}
{% endfor %}
{% for key in tool.vars %}
ARG {{ scoped_identifier(tool.name, key) }}
{% endfor %}
ARG {{ identifier(tool.name) }}
{% if tool.has_url %}
ARG {{ url_identifier(tool.name) }}
{% endif %}
{% if tool.has_archive %}
ARG {{ archive_identifier(tool.name) }}
{% endif %}
{% for dep in tool.depends_on %}
ARG {{ identifier(dep) }}
{% endfor %}
{% for dep in tool.depends_on if config.tools[dep].installer.kind != "provided" %}
COPY --from={{ docker.stage_prefix }}{{ stage_id(dep) }} {{ ref(local) }}/ {{ ref(local) }}/
{% endfor %}
{% if tool.installer.kind == "pipx" %}
RUN python3 -m pip install --no-cache-dir pipx
{% endif %}
RUN <<EOF
{{- include("script", {"tool": tool, "config": config}) | trim | indent_wrap(1) }}
EOF
"#

def dockerfileToolArgs : String := r#"{% set refs = {"vars": var_dict(tool.name, tool.vars), "global": var_dict("", config.vars)} %}
{% set local = ref(config.local_bin_var) %}
{% for key, value in tool.vars | items %}
ARG {{ scoped_identifier(tool.name, key) }}={{ value | arg_value }}
{% endfor %}
{% if tool.provided %}
ARG {{ identifier(tool.name) }}={{ tool.installer.default | arg_value }}
{% else %}
ARG {{ identifier(tool.name) }}={{ local }}/{{ tool.name }}
{% if tool.has_url %}
ARG {{ url_identifier(tool.name) }}={{ tpl(tool.installer.url, refs) | arg_value }}
{% endif %}
{% if tool.has_archive %}
ARG {{ archive_identifier(tool.name) }}={{ local }}/.make-env/{{ tool.name }}.{{ tool.installer.archive.kind }}
{% endif %}
{% endif %}
"#

def common : List Fragment :=
  [⟨"extract/tar", extractTar⟩,
    ⟨"extract/zip", extractZip⟩,
    ⟨"install/go", installGo⟩,
    ⟨"install/http", installHttp⟩,
    ⟨"install/maven", installMaven⟩,
    ⟨"install/pipx", installPipx⟩,
    ⟨"install/provided", installProvided⟩,
    ⟨"install/s3", installS3⟩]

end Fragment

/-- The fragments that only one kind of artifact has. -/
def ArtifactKind.ownFragments : ArtifactKind → List Fragment
  | .makefile => [⟨"main", Fragment.makefileMain⟩, ⟨"tool", Fragment.makefileTool⟩]
  | .dockerfile =>
      [⟨"main", Fragment.dockerfileMain⟩,
        ⟨"script", Fragment.dockerfileScript⟩,
        ⟨"tool", Fragment.dockerfileTool⟩,
        ⟨"tool_args", Fragment.dockerfileToolArgs⟩]

def ArtifactKind.fragments (kind : ArtifactKind) : List Fragment :=
  Fragment.common ++ kind.ownFragments

end Provision
